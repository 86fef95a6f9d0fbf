/-
What the slaves of the simulated bus read.

Main statement: in whatever order a configured connection is started, stopped and cycled, and its
handles submit commands, both slaves read the two halves of one command whenever they exchange
frames. It is the command submitted last before the frame is received, with its currents rounded,
and before the first submission it is a frame of zero bytes. No frame and no copy ever fails to fit
the domain.

The invariant (`Carries`, `Synced`) ties the domain and its copy in flight to the submission: the
command stands in the domain at all times, and while a cycle waits for its frame the copy is the
domain, since every submission is sent straight away.
-/
import BoomWalker.Proofs.Fieldbus.Interleaving
import BoomWalker.Proofs.Fieldbus.SimSetup

namespace BoomWalker

variable {α : Type}

/-! ## What is on the way to the slaves -/

/-- The command frame of a leg when the given command was submitted last. -/
def CommandFrame.sent [Transmit α] (last : Option (Command α)) (watchdog : UInt16) (s : Side) :
    Bytes :=
  match last with
  | none => List.replicate length 0
  | some c => toBytes ⟨c.code, watchdog, c.legs.get s⟩

/-- What the slave of a leg reads when the given command was submitted last. -/
def CommandFrame.received [Transmit α] (last : Option (Command α)) (watchdog : UInt16) (s : Side) :
    CommandFrame α :=
  match last with
  | none => ⟨.idle, 0, ⟨Transmit.ofWord 0, Transmit.ofWord 0, Transmit.ofWord 0⟩⟩
  | some c => ⟨c.code, watchdog, (c.legs.get s).map Transmit.round⟩

theorem CommandFrame.ofBytes?_sent [Transmit α] (last : Option (Command α)) (watchdog : UInt16)
    (s : Side) : ofBytes? (sent last watchdog s) = some (received last watchdog s) := by
  cases last with
  | none => exact ofBytes?_zero
  | some c => exact ofBytes?_toBytes _

namespace SimMaster

variable [Transmit α] {m : SimMaster α} {last : Option (Command α)}

/-- Process data in which the given command stands. -/
structure Holds (last : Option (Command α)) (domain : Bytes) : Prop where
  length : domain.length = Side.domainLength
  frames : ∃ watchdog, ∀ s : Side,
    s.commandWindow domain = some (CommandFrame.sent last watchdog s)

/-- A master whose domain holds the command that was submitted last. -/
structure Carries (last : Option (Command α)) (m : SimMaster α) : Prop where
  unbroken : m.broken = false
  slaves : ∃ counter, List.Forall₂ (SimSlave.Seated counter) [Side.left, Side.right] m.slaves
  domain : ∃ d, m.domain = some d ∧ Holds last d
  copy : m.active = true → m.inFlight.length = Side.domainLength

/-- The frame in flight is the domain. -/
structure InFlight (m : SimMaster α) : Prop where
  active : m.active = true
  sent : m.sent = true
  copied : m.domain = some m.inFlight

omit [Transmit α] in
/-- Sending concerns the copy in flight, and the rig only in that it counts. -/
theorem send_keeps (m : SimMaster α) :
    m.send.params = m.params ∧ m.send.numFrames = m.numFrames ∧ m.send.active = m.active ∧
      m.send.slaves = m.slaves ∧ m.send.rig.snapshot = m.rig.snapshot := by
  unfold SimMaster.send
  split
  · dsimp only
    split
    · exact ⟨rfl, rfl, rfl, rfl, rfl⟩
    · split
      · exact ⟨rfl, rfl, rfl, rfl, rfl⟩
      · exact ⟨rfl, rfl, rfl, rfl, rfl⟩
  · exact ⟨rfl, rfl, rfl, rfl, rfl⟩

theorem Carries.send (h : m.Carries last) :
    m.send.Carries last ∧ (m.active = true → m.send.InFlight) := by
  obtain ⟨d, hd, hholds⟩ := h.domain
  unfold SimMaster.send
  cases hactive : m.active with
  | false => exact ⟨h, fun hnot => absurd hnot Bool.false_ne_true⟩
  | true =>
    have hlength : d.length = m.inFlight.length := hholds.length.trans (h.copy hactive).symm
    rw [if_pos rfl]
    simp only [hd, if_pos hlength]
    exact ⟨⟨h.unbroken, h.slaves, ⟨d, rfl, hholds⟩, fun _ => hholds.length⟩,
      fun _ => ⟨rfl, rfl, rfl⟩⟩

/-- Both slaves are ready, so activating succeeds, and counts the frames afresh. -/
theorem Carries.activate (h : m.Carries last) :
    ∃ copy, m.activate = (.ok (), { m with inFlight := copy, active := true, numFrames := 0 }) ∧
      { m with inFlight := copy, active := true, numFrames := 0 }.Carries last := by
  obtain ⟨d, hd, hholds⟩ := h.domain
  obtain ⟨counter, hslaves⟩ := h.slaves
  refine ⟨List.replicate d.length 0, ?_, h.unbroken, h.slaves, ⟨d, hd, hholds⟩, fun _ => ?_⟩
  · unfold SimMaster.activate
    simp only [hd]
    rw [if_pos (all_ready hslaves)]
  · rw [List.length_replicate]
    exact hholds.length

/-- The rig has no say in what the domain holds. -/
theorem Carries.withRig (h : m.Carries last) (rig : SimRig α) : { m with rig }.Carries last :=
  ⟨h.unbroken, h.slaves, h.domain, h.copy⟩

/-- A frame that is counted leaves domain and slaves alone. -/
theorem Carries.count (h : m.Carries last) : m.receive.count.Carries last :=
  ⟨h.unbroken, h.slaves, h.domain, h.copy⟩

variable [Scalar α]

theorem linkState_exchange (m : SimMaster α) : m.exchange.linkState = m.linkState := by
  obtain ⟨hparams, -, hframes, hactive⟩ := m.exchange_keeps
  unfold linkState
  rw [hparams, hframes, hactive]

/-- A frame that comes back is counted, and exchanged once the slaves are operational. -/
theorem InFlight.processDomain (h : m.InFlight) :
    m.receive.processDomain =
      if m.receive.count.linkState = .op then m.receive.count.exchange else m.receive.count := by
  have hreceived : m.receive.received = true := h.sent
  unfold SimMaster.processDomain
  rw [if_pos hreceived]

/-- The link is what it is when the frame has been counted. -/
theorem InFlight.linkState_processDomain (h : m.InFlight) :
    m.receive.processDomain.linkState = m.receive.count.linkState := by
  rw [h.processDomain]
  split
  · exact linkState_exchange _
  · rfl

/-- In an exchange both slaves read the command that is in flight, and both report the states that
their legs have afterwards. -/
theorem Carries.exchange (h : m.Carries last) (hcopied : m.domain = some m.inFlight)
    {counter : UInt16}
    (hslaves : List.Forall₂ (SimSlave.Seated counter) [Side.left, Side.right] m.slaves) :
    m.exchange.Carries last ∧ ∃ watchdog domain,
      m.exchange = { m with
        slaves := m.slaves.map SimSlave.updated
        rig := m.serveAll (CommandFrame.received last watchdog) [.left, .right] m.rig
        domain := some domain } ∧
      ∀ s : Side, s.stateWindow domain = some (m.exchange.rig.frame s (counter + 1)).toBytes := by
  obtain ⟨d, hd, hholds⟩ := h.domain
  -- The copy in flight is the domain, so the slaves read the command that the domain holds.
  obtain rfl : m.inFlight = d := Option.some_inj.mp (hcopied.symm.trans hd)
  obtain ⟨watchdog, hframes⟩ := hholds.frames
  have hread : ∀ s : Side, (s.commandWindow m.inFlight).bind CommandFrame.ofBytes? =
      some (CommandFrame.received last watchdog s) := by
    intro s
    rw [hframes s]
    exact CommandFrame.ofBytes?_sent last watchdog s
  obtain ⟨d', hexchange, hupdated, hlength, hkept, hstates⟩ :=
    exchange_seated hslaves hread hd hholds.length
  have hd' : Holds last d' := ⟨hlength, watchdog, fun s => (hkept s).trans (hframes s)⟩
  refine ⟨?_, watchdog, d', hexchange, hstates⟩
  rw [hexchange]
  exact ⟨h.unbroken, ⟨counter + 1, hupdated⟩, ⟨d', rfl, hd'⟩, h.copy⟩

/-- When a frame comes back the slaves read the command if they are operational; otherwise nothing
moves. -/
theorem Carries.deliver (h : m.Carries last) (hflight : m.InFlight) :
    m.receive.processDomain.Carries last ∧ m.receive.processDomain.active = true ∧
      (m.receive.processDomain.linkState = .op → ∃ watchdog, ∀ s,
        m.receive.processDomain.lastCommand s =
          some (CommandFrame.received last watchdog s)) ∧
      (m.receive.processDomain.linkState ≠ .op → m.receive.processDomain.rig = m.rig) := by
  obtain ⟨counter, hslaves⟩ := h.slaves
  obtain ⟨hcarries, watchdog, d, hexchange, -⟩ := h.count.exchange hflight.copied hslaves
  rw [hflight.linkState_processDomain, hflight.processDomain]
  split
  · next hop =>
    refine ⟨hcarries, ?_, fun _ => ⟨watchdog, fun s => ?_⟩, fun hnot => absurd hop hnot⟩
    · rw [hexchange]
      exact hflight.active
    · rw [hexchange]
      cases s <;> rfl
  · next hnot => exact ⟨h.count, hflight.active, fun hop => absurd hop hnot, fun _ => rfl⟩

/-- A submission puts the command into the domain. -/
theorem Carries.encodeAll (h : m.Carries last) {watchdog : UInt16} {ms : List Medulla}
    (hms : List.Forall₂ (Medulla.Seated watchdog) [.left, .right] ms) (c : Command α) :
    List.Forall₂ (Medulla.Seated (watchdog + 1)) [.left, .right]
        (Medulla.encodeAll c ms (Master.domain m)).1 ∧
      (Master.setDomain (Medulla.encodeAll c ms (Master.domain m)).2 m).Carries (some c) := by
  obtain ⟨d, hd, hholds⟩ := h.domain
  have hdomain : Master.domain m = d := by
    show m.domain.getD [] = d
    rw [hd]
    rfl
  rw [hdomain]
  obtain ⟨hmoved, hlength, hin⟩ := Medulla.encodeAll_seated hms (by decide) c hholds.length
  refine ⟨hmoved, h.unbroken, h.slaves, ⟨(Medulla.encodeAll c ms d).2, ?_, hlength, watchdog + 1,
    fun s => hin s ?_⟩, h.copy⟩
  · show m.domain.map _ = _
    rw [hd]
    rfl
  · cases s <;> decide

end SimMaster

/-! ## One piece -/

namespace Interleaved

variable [Scalar α] [Transmit α] {last : Option (Command α)} {i i' : Interleaved (SimMaster α) α}

/-- The connection and its master agree on the command that was submitted last, and while a cycle
waits its frame is the domain. -/
structure Synced (last : Option (Command α)) (i : Interleaved (SimMaster α) α) : Prop where
  master : i.connection.link.master.Carries last
  codecs : ∃ watchdog,
    List.Forall₂ (Medulla.Seated watchdog) [.left, .right] i.connection.link.slaves
  running : i.connection.running = true → i.connection.link.master.active = true
  waiting : i.waiting = true → i.connection.link.master.InFlight

/-- A connection that is in step with its master is started whenever it is asked to be. -/
theorem Synced.start_ok {c : Connection (SimMaster α) α} (h : Synced last ⟨c, false⟩) :
    ∃ copy, c.start = (.ok (), { c with
      link := { c.link with
        master := { c.link.master with inFlight := copy, active := true, numFrames := 0 }
        inOp := false }
      running := true
      syncCounter := 0 }) ∧ Synced last ⟨c.start.2, false⟩ := by
  obtain ⟨copy, hactivate, hcarries⟩ := h.master.activate
  obtain ⟨e, m, hm, -⟩ | ⟨m, hm, hstarted⟩ := c.start_cases
  · cases hactivate.symm.trans hm
  · cases hactivate.symm.trans hm
    -- Activating clears the copy in flight, but no cycle waits for it.
    refine ⟨copy, hstarted, ?_⟩
    rw [hstarted]
    exact ⟨hcarries, h.codecs, fun _ => rfl, Bool.noConfusion⟩

/-- The master of a connection whose cycle has sent its frame. Clocks and times concern the rig
only. -/
theorem master_sendPhase (c : Connection (SimMaster α) α) (now : Nat) :
    ∃ rig : SimRig α, rig.snapshot = c.link.master.rig.snapshot ∧
      (c.sendPhase now).link.master = SimMaster.send { c.link.master with rig } := by
  unfold Connection.sendPhase
  dsimp only
  split
  · exact ⟨{ c.link.master.rig with numSyncs := c.link.master.rig.numSyncs + 1 }, rfl, rfl⟩
  · exact ⟨c.link.master.rig, rfl, rfl⟩

theorem Synced.step_send {c : Connection (SimMaster α) α} (h : Synced last ⟨c, false⟩)
    (hrunning : c.running = true) (now : Nat) : Synced last ⟨c.sendPhase now, true⟩ := by
  obtain ⟨rig, -, hm⟩ := master_sendPhase c now
  obtain ⟨hcarries, hflight⟩ := (h.master.withRig rig).send
  rw [← hm] at hcarries hflight
  exact ⟨hcarries, h.codecs, fun _ => (hflight (h.running hrunning)).active,
    fun _ => hflight (h.running hrunning)⟩

/-- Receiving leaves the codecs with a common watchdog: it goes on, or begins afresh. -/
theorem codecs_received {up : Prop} {c c' : Connection (SimMaster α) α} {s : Option (Snapshot α)}
    (h : Connection.Received up c s c') {watchdog : UInt16}
    (hcodecs : List.Forall₂ (Medulla.Seated watchdog) [.left, .right] c.link.slaves) :
    ∃ watchdog', List.Forall₂ (Medulla.Seated watchdog') [.left, .right] c'.link.slaves := by
  by_cases hop : c'.linkState = .op
  · by_cases hup : up
    · have hslaves : c'.link.slaves = (Medulla.decodeAll (Master.domain c'.link.master)
          c.link.slaves c.snapshot).1 := congrArg Prod.fst (h.decoded hop hup).2
      rw [hslaves]
      exact ⟨watchdog, Medulla.decodeAll_seated hcodecs c.snapshot⟩
    · rw [(h.setUp hop hup).2.2]
      exact ⟨0, Medulla.postOp_seated hcodecs⟩
  · rw [(h.withheld hop).2.2]
    exact ⟨watchdog, hcodecs⟩

/-- What a cycle that waits for its frame leaves of the master and the rig. -/
theorem Synced.delivered {c : Connection (SimMaster α) α} (h : Synced last ⟨c, true⟩) :
    c.receivePhase.2.link.master.Carries last ∧ c.receivePhase.2.link.master.active = true ∧
      (c.receivePhase.2.linkState = .op → ∃ watchdog, ∀ s,
        c.receivePhase.2.link.master.lastCommand s =
          some (CommandFrame.received last watchdog s)) ∧
      (c.receivePhase.2.linkState ≠ .op →
        c.receivePhase.2.link.master.rig = c.link.master.rig) := by
  obtain ⟨-, -, -, hm⟩ := c.receivePhase_received
  have hmaster : c.receivePhase.2.link.master = c.link.master.receive.processDomain := hm
  unfold Connection.linkState
  rw [hmaster]
  exact h.master.deliver (h.waiting rfl)

theorem Synced.step_receive {c : Connection (SimMaster α) α} (h : Synced last ⟨c, true⟩) :
    Synced last ⟨c.receivePhase.2, false⟩ := by
  obtain ⟨hreceived, -, -, -⟩ := c.receivePhase_received
  obtain ⟨hcarries, hactive, -, -⟩ := h.delivered
  obtain ⟨watchdog, hcodecs⟩ := h.codecs
  exact ⟨hcarries, codecs_received hreceived hcodecs, fun _ => hactive, Bool.noConfusion⟩

theorem Synced.step_submit {c : Connection (SimMaster α) α} {waiting : Bool}
    (h : Synced last ⟨c, waiting⟩) (cmd : Command α) :
    Synced (some cmd) ⟨c.submit cmd, waiting⟩ := by
  obtain ⟨watchdog, hcodecs⟩ := h.codecs
  obtain ⟨hmoved, hwritten⟩ := h.master.encodeAll hcodecs cmd
  -- The domain is sent again at once, so also a cycle that waits gets the new command.
  obtain ⟨hcarries, hflight⟩ := hwritten.send
  exact ⟨hcarries, ⟨watchdog + 1, hmoved⟩, fun hrunning => (hflight (h.running hrunning)).active,
    fun hwaiting => hflight (h.waiting hwaiting).active⟩

theorem Synced.step {r : Region α} (h : Synced last i) (hstep : Step i r i') :
    Synced (r.command?.or last) i' := by
  cases hstep with
  | start c => exact h.start_ok.choose_spec.2
  | stop c => exact ⟨h.master, h.codecs, Bool.noConfusion, h.waiting⟩
  | send c now hrunning => exact h.step_send hrunning now
  | receive c => exact h.step_receive
  | submit c waiting cmd => exact h.step_submit cmd

/-! ## Sequences of pieces -/

/-- A configured connection is in step with its master before the first submission. -/
theorem synced_configured {index : Nat} {sim : SimParams α} {period : α} {m : SimMaster α}
    (hrequest : SimMaster.request index sim period = .ok m) {p : FieldbusParams α} {now : Nat}
    {c : Connection (SimMaster α) α} (hconfigured : (Connection.configure p now m).1 = .ok c) :
    Synced none ⟨c, false⟩ := by
  obtain rfl := SimMaster.configure_ok hrequest hconfigured
  cases SimMaster.request_ok hrequest
  have hholds : SimMaster.Holds (α := α) none (List.replicate Side.domainLength 0) :=
    ⟨List.length_replicate, 0, fun s => Bytes.window?_replicate 0 s.output_fits⟩
  refine ⟨⟨rfl, ⟨0, SimMaster.slavePair_seated⟩, ⟨_, rfl, hholds⟩, Bool.noConfusion⟩, ⟨0, ?_⟩,
    Bool.noConfusion, Bool.noConfusion⟩
  exact .cons ⟨rfl, rfl, rfl⟩ (.cons ⟨rfl, rfl, rfl⟩ .nil)

theorem steps_synced {index : Nat} {sim : SimParams α} {period : α} {m : SimMaster α}
    (hrequest : SimMaster.request index sim period = .ok m) {p : FieldbusParams α} {now : Nat}
    {c : Connection (SimMaster α) α} (hconfigured : (Connection.configure p now m).1 = .ok c)
    {rs : List (Region α)} (hsteps : Steps ⟨c, false⟩ rs i) :
    Synced (Region.submissions rs).getLast? i :=
  hsteps.invariant (P := fun rs i => Synced (Region.submissions rs).getLast? i)
    (synced_configured hrequest hconfigured) fun rs i₁ r i₂ h hstep => by
      rw [Region.submissions_concat]
      exact h.step hstep

/-- Whenever the slaves exchange frames, both read the two halves of the command that was submitted
last before the frame was received, and never does a frame or a copy fail to fit the domain. -/
theorem steps_read_last {index : Nat} {sim : SimParams α} {period : α} {m : SimMaster α}
    (hrequest : SimMaster.request index sim period = .ok m) {p : FieldbusParams α} {now : Nat}
    {c : Connection (SimMaster α) α} (hconfigured : (Connection.configure p now m).1 = .ok c)
    {rs : List (Region α)} (hsteps : Steps ⟨c, false⟩ rs i) :
    i.connection.link.master.broken = false ∧
      ∀ i', Step i .receive i' →
        (i'.connection.linkState = .op → ∃ watchdog, ∀ s,
          i'.connection.link.master.lastCommand s =
            some (CommandFrame.received (Region.submissions rs).getLast? watchdog s)) ∧
        (i'.connection.linkState ≠ .op →
          i'.connection.link.master.rig = i.connection.link.master.rig) := by
  have hsynced := steps_synced hrequest hconfigured hsteps
  refine ⟨hsynced.master.unbroken, fun i' hstep => ?_⟩
  cases hstep with
  | receive c =>
    obtain ⟨-, -, hread, hstill⟩ := hsynced.delivered
    exact ⟨hread, hstill⟩

/-- A bus of two slaves that are operational from the first frame on. -/
def promptBus : FieldbusParams Float := ⟨0, 0, [1, 2], 1, 0, 0, 0, 1, ⟨2, 0, 0, 0⟩⟩

/-- Its master as it is requested. -/
def promptRequest : SimMaster Float :=
  ⟨promptBus.sim, 0, none, [], false, false, [], false, 0, ⟨.zero, .both none, 0, 0, false⟩, false⟩

/-- Its master with the slaves and their frames set up, and the clocks turned on or not. -/
def promptMaster (clocked : Bool) : SimMaster Float :=
  let legBytes : Bytes := List.replicate (CommandFrame.length + StateFrame.length) 0
  { promptRequest with
    domain := some ([] ++ legBytes ++ legBytes)
    slaves := [⟨0, .left, some (Side.frameOffsets .left), clocked, 0⟩,
      ⟨1, .right, some (Side.frameOffsets .right), clocked, 0⟩] }

/-- Its connection. -/
def promptConnection : Connection (SimMaster Float) Float :=
  ⟨promptBus, ⟨promptMaster true, Connection.medullas [Side.frameOffsets .left,
    Side.frameOffsets .right], false, false⟩, 0, .zero, false, 0⟩

/-- A command for it. -/
def promptCommand : Command Float := ⟨.both ⟨1, 2, 3⟩, .run⟩

theorem promptBus_requested : SimMaster.request 0 promptBus.sim 0 = .ok promptRequest := rfl

set_option maxRecDepth 4000 in
theorem promptBus_configured :
    (Connection.configure promptBus 0 promptRequest).1 = .ok promptConnection := by
  have hslaves : (Connection.configureSlaves promptBus).run promptRequest =
      (.ok ([0, 1], [Side.frameOffsets .left, Side.frameOffsets .right]), promptMaster false) := by
    rfl
  unfold Connection.configure
  rw [hslaves]
  rfl

/-- Its connection when the command was submitted and the first cycle has sent its frame. -/
def promptCycle : Connection (SimMaster Float) Float :=
  (promptConnection.start.2.submit promptCommand).sendPhase 1

set_option maxRecDepth 4000 in
/-- A command that is submitted before the first cycle is read by both slaves in that cycle. -/
theorem promptBus_steps_read_last :
    SimMaster.request 0 promptBus.sim 0 = .ok promptRequest ∧
      (Connection.configure promptBus 0 promptRequest).1 = .ok promptConnection ∧
      Steps ⟨promptConnection, false⟩ [.start, .submit promptCommand, .send 1]
        ⟨promptCycle, true⟩ ∧
      ∃ i, Step ⟨promptCycle, true⟩ .receive i ∧
        ∃ watchdog, ∀ s, i.connection.link.master.lastCommand s =
          some (CommandFrame.received (some promptCommand) watchdog s) := by
  have hsteps : Steps ⟨promptConnection, false⟩ [.start, .submit promptCommand, .send 1]
      ⟨promptCycle, true⟩ :=
    ((Steps.nil.concat (.start promptConnection)).concat (.submit _ false promptCommand)).concat
      (.send _ 1 (by rfl))
  have hop : promptCycle.receivePhase.2.linkState = .op := by rfl
  obtain ⟨-, hreads⟩ := steps_read_last promptBus_requested promptBus_configured hsteps
  exact ⟨promptBus_requested, promptBus_configured, hsteps, _, .receive promptCycle,
    (hreads _ (.receive _)).1 hop⟩

end Interleaved

end BoomWalker
