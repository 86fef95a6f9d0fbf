/-
What the states that a cycle delivers say of the simulated rig.

Main statement: however a configured connection is started, stopped and cycled, commands are
submitted, and the rig is moved by hand, every state that a cycle delivers is the rig right after
the plant step of that cycle, rounded on its way over the wire. No frame is ever taken for a stale
one.

The invariant (`Sensed`) relates the counters of the slaves with those of the codecs. An exchange
moves the counters of both slaves on by one, and while the slaves are operational the codecs have
seen the latest values. So the next value is never the one that was seen last, although the counters
begin anew after 2 ^ 16 frames, and a restart cannot do harm since nothing is decoded before the
counters have been taken over again.
-/
import BoomWalker.Proofs.Fieldbus.Codec
import BoomWalker.Proofs.Fieldbus.SimLinkUp
import Mathlib.Logic.Relation

namespace BoomWalker

variable {α : Type}

/-! ## State frames and their counters -/

/-- Apply a function to every measurement of a snapshot. -/
def Snapshot.map (f : α → α) (s : Snapshot α) : Snapshot α :=
  ⟨s.legs.map (LegState.map f), s.position.map f⟩

theorem StateFrame.counter?_toBytes [Transmit α] (f : StateFrame α) :
    counter? f.toBytes = some f.counter := by
  have hplace : (Bytes.ofScalars (f.leg.toList ++ f.position.toList)).length = counterOffset := by
    rw [Bytes.length_ofScalars]
    rfl
  -- Nothing follows the counter in a frame.
  have hword := Bytes.word16?_ofWord16 f.counter []
  rw [List.append_nil] at hword
  unfold counter? toBytes
  rw [List.drop_left' hplace, hword]
  rfl

/-- A counter that moves on by one has changed, also where it wraps. -/
theorem next_counter_ne (w : UInt16) : w + 1 ≠ w := by
  intro heq
  have hnat : (w.toNat + 1) % 2 ^ 16 = w.toNat := by
    have hsum := UInt16.toNat_add w 1
    rw [heq] at hsum
    exact hsum.symm
  have hlt := w.toNat_lt
  omega

/-! ## The codecs -/

namespace Medulla

/-- The codec of a leg, in step with its slave: it has counted no stale frame, and while the slaves
are operational it has seen the latest counter. -/
structure Follows (inOp : Bool) (counter : UInt16) (s : Side) (m : Medulla) : Prop where
  side : m.side = s
  offsets : m.offsets = s.frameOffsets
  position : m.carriesPosition = (s == .left)
  seen : inOp = true → m.lastCounter = counter
  fresh : m.numStale = 0

variable {inOp : Bool} {counter : UInt16} {s : Side} {m : Medulla} {sides : List Side}
  {ms : List Medulla} {domain : Bytes}

theorem Follows.stateBytes? (h : m.Follows inOp counter s) (domain : Bytes) :
    m.stateBytes? domain = s.stateWindow domain := by
  unfold Medulla.stateBytes? Side.stateWindow
  rw [h.offsets]

/-- Nothing need have been seen while the slaves are not operational. -/
theorem Follows.down (h : m.Follows inOp counter s) (counter' : UInt16) :
    m.Follows false counter' s :=
  ⟨h.side, h.offsets, h.position, Bool.noConfusion, h.fresh⟩

variable [Transmit α]

theorem Follows.encode (h : m.Follows inOp counter s) (c : Command α) (domain : Bytes) :
    (m.encode c domain).1.Follows inOp counter s := by
  unfold Medulla.encode
  split
  · exact ⟨h.side, h.offsets, h.position, h.seen, h.fresh⟩
  · exact h

/-- Writing commands does not concern the counters. -/
theorem encodeAll_follows (h : List.Forall₂ (Follows inOp counter) sides ms) (c : Command α)
    (domain : Bytes) : List.Forall₂ (Follows inOp counter) sides (encodeAll c ms domain).1 := by
  induction h generalizing domain with
  | nil => exact .nil
  | cons hfollows _ ih => exact .cons (hfollows.encode c domain) (ih _)

/-- When the slaves have come up the codec takes over the counter. -/
theorem Follows.postOp (h : m.Follows inOp counter s) {f : StateFrame α}
    (hstate : s.stateWindow domain = some f.toBytes) :
    (m.postOp domain).Follows true f.counter s := by
  refine ⟨h.side, h.offsets, h.position, fun _ => ?_, rfl⟩
  unfold Medulla.postOp
  rw [h.stateBytes?, hstate, Option.bind_some, f.counter?_toBytes]
  rfl

/-- A frame that was written once more is fresh, and the state of the leg arrives rounded. The body
is read with the left leg. -/
theorem Follows.decode (h : m.Follows true counter s) {f : StateFrame α}
    (hstate : s.stateWindow domain = some f.toBytes) (hcounter : f.counter = counter + 1)
    (snap : Snapshot α) :
    ∃ m', m'.Follows true (counter + 1) s ∧ m.decode domain snap =
      (m', ⟨snap.legs.set s (f.leg.map Transmit.round),
        if s == .left then f.position.map Transmit.round else snap.position⟩, true) := by
  have hmoved : f.counter ≠ m.lastCounter := by
    rw [hcounter, h.seen rfl]
    exact next_counter_ne counter
  have hbytes : m.stateBytes? domain = some f.toBytes := (h.stateBytes? domain).trans hstate
  rw [decode_of_bytes hbytes snap, if_pos hmoved, decide_eq_true hmoved, h.side, h.position]
  refine ⟨_, ?_, rfl⟩
  exact ⟨rfl, h.offsets, rfl, fun _ => hcounter, h.fresh⟩

/-- Both legs together give the whole rig. -/
theorem decodeAll_follows (h : List.Forall₂ (Follows true counter) [.left, .right] ms)
    {rig : SimRig α}
    (hstates : ∀ s : Side, s.stateWindow domain = some (rig.frame s (counter + 1)).toBytes)
    (snap : Snapshot α) :
    List.Forall₂ (Follows true (counter + 1)) [.left, .right] (decodeAll domain ms snap).1 ∧
      (decodeAll domain ms snap).2 = rig.snapshot.map Transmit.round := by
  match ms, h with
  | [left, right], .cons hleft (.cons hright .nil) =>
    obtain ⟨left', hleft', hdecodeLeft⟩ := hleft.decode (hstates .left) rfl snap
    rw [if_pos (beq_self_eq_true Side.left)] at hdecodeLeft
    obtain ⟨right', hright', hdecodeRight⟩ := hright.decode (hstates .right) rfl
      ⟨snap.legs.set .left ((rig.frame .left (counter + 1)).leg.map Transmit.round),
        (rig.frame .left (counter + 1)).position.map Transmit.round⟩
    have hall : decodeAll domain [left, right] snap =
        ([left', right'], rig.snapshot.map Transmit.round) := by
      simp only [decodeAll, hdecodeLeft, hdecodeRight]
      rfl
    rw [hall]
    exact ⟨.cons hleft' (.cons hright' .nil), rfl⟩

end Medulla

/-! ## One piece -/

section Exchanged

variable [Scalar α]

/-- The rig when a master has exchanged a frame with its slaves: each leg has read a command, and
the plant has moved by it from where it was before. -/
structure SimMaster.Exchanged (m : SimMaster α) (rig : SimRig α) : Prop where
  legs : ∀ s : Side, ∃ c, rig.last.get s = some c ∧
    rig.snapshot.legs.get s = m.driven c (m.rig.snapshot.legs.get s)
  position : rig.snapshot.position = m.rig.snapshot.position

theorem SimMaster.exchanged_serveAll (m : SimMaster α) (read : Side → CommandFrame α) :
    m.Exchanged (m.serveAll read [.left, .right] m.rig) := by
  refine ⟨fun s => ⟨read s, ?_, ?_⟩, rfl⟩
  · cases s <;> rfl
  · cases s <;> rfl

end Exchanged

namespace Interleaved

variable [Scalar α] [Transmit α] {c : Connection (SimMaster α) α} {waiting : Bool}
  {i i' : Interleaved (SimMaster α) α}

/-- A piece of what the connection and its handles do, or a change of the rig by hand. The rig can
be changed at any time, also while a cycle waits for its frame. -/
inductive RigStep : Interleaved (SimMaster α) α → Interleaved (SimMaster α) α → Prop
  | piece {i i' : Interleaved (SimMaster α) α} (r : Region α) (h : Step i r i') : RigStep i i'
  | setLeg (c : Connection (SimMaster α) α) (waiting : Bool) (s : Side) (l : LegState α) :
      RigStep ⟨c, waiting⟩ ⟨{ c with link.master := c.link.master.setLeg s l }, waiting⟩
  | setPosition (c : Connection (SimMaster α) α) (waiting : Bool) (p : BodyPosition α) :
      RigStep ⟨c, waiting⟩ ⟨{ c with link.master := c.link.master.setPosition p }, waiting⟩

/-- The codecs are in step with the slaves. -/
structure Sensed (i : Interleaved (SimMaster α) α) : Prop where
  synced : ∃ last, Synced last i
  follows : ∃ counter,
    List.Forall₂ (SimSlave.Seated counter) [Side.left, Side.right]
        i.connection.link.master.slaves ∧
      List.Forall₂ (Medulla.Follows i.connection.link.inOp counter) [Side.left, Side.right]
        i.connection.link.slaves

omit [Scalar α] in
/-- The rig may be changed by hand in any way. -/
theorem Sensed.withRig (h : Sensed ⟨c, waiting⟩) (rig : SimRig α) :
    Sensed ⟨{ c with link.master := { c.link.master with rig } }, waiting⟩ := by
  obtain ⟨last, hsynced⟩ := h.synced
  refine ⟨⟨last, hsynced.master.withRig rig, hsynced.codecs, hsynced.running, fun hwaiting => ?_⟩,
    h.follows⟩
  obtain ⟨hactive, hsent, hcopied⟩ := hsynced.waiting hwaiting
  exact ⟨hactive, hsent, hcopied⟩

theorem Sensed.start (h : Sensed ⟨c, false⟩) : Sensed ⟨c.start.2, false⟩ := by
  obtain ⟨last, hsynced⟩ := h.synced
  obtain ⟨counter, hslaves, hcodecs⟩ := h.follows
  obtain ⟨copy, hstart, hstarted⟩ := hsynced.start_ok
  refine ⟨⟨last, hstarted⟩, counter, ?_, ?_⟩
  · rw [hstart]
    exact hslaves
  · rw [hstart]
    exact hcodecs.imp fun s m hfollows => hfollows.down counter

theorem Sensed.send (h : Sensed ⟨c, false⟩) (hrunning : c.running = true) (now : Nat) :
    Sensed ⟨c.sendPhase now, true⟩ := by
  obtain ⟨last, hsynced⟩ := h.synced
  obtain ⟨counter, hslaves, hcodecs⟩ := h.follows
  obtain ⟨rig, -, hm⟩ := master_sendPhase c now
  obtain ⟨-, -, -, hkept, -⟩ := SimMaster.send_keeps { c.link.master with rig }
  refine ⟨⟨last, hsynced.step_send hrunning now⟩, counter, ?_, hcodecs⟩
  rw [hm, hkept]
  exact hslaves

theorem Sensed.submit (h : Sensed ⟨c, waiting⟩) (cmd : Command α) :
    Sensed ⟨c.submit cmd, waiting⟩ := by
  obtain ⟨last, hsynced⟩ := h.synced
  obtain ⟨counter, hslaves, hcodecs⟩ := h.follows
  let bytes := (Medulla.encodeAll cmd c.link.slaves (Master.domain c.link.master)).2
  obtain ⟨-, -, -, hkept, -⟩ := SimMaster.send_keeps (Master.setDomain bytes c.link.master)
  refine ⟨⟨some cmd, hsynced.step_submit cmd⟩, counter, ?_,
    Medulla.encodeAll_follows hcodecs cmd _⟩
  exact hkept.symm ▸ hslaves

/-- A frame that comes back is counted, and exchanged if the slaves are operational then. -/
theorem Synced.master_receivePhase {last : Option (Command α)} (h : Synced last ⟨c, true⟩) :
    c.receivePhase.2.link.master =
      if c.receivePhase.2.linkState = .op then c.link.master.receive.count.exchange
      else c.link.master.receive.count := by
  have hflight : c.link.master.InFlight := h.waiting rfl
  obtain ⟨-, -, -, hmaster⟩ := c.receivePhase_received
  have hm : c.receivePhase.2.link.master = c.link.master.receive.processDomain := hmaster
  show _ = if c.receivePhase.2.link.master.linkState = .op then _ else _
  rw [hm, hflight.linkState_processDomain]
  exact hflight.processDomain

/-- When the slaves are operational as a frame comes back, both legs have moved, and the states that
they have now stand in the process data with the next counter. -/
theorem Synced.exchanged {last : Option (Command α)} (h : Synced last ⟨c, true⟩) {counter : UInt16}
    (hslaves : List.Forall₂ (SimSlave.Seated counter) [Side.left, Side.right]
      c.link.master.slaves) (hop : c.receivePhase.2.linkState = .op) :
    List.Forall₂ (SimSlave.Seated (counter + 1)) [Side.left, Side.right]
        c.receivePhase.2.link.master.slaves ∧
      c.link.master.Exchanged c.receivePhase.2.link.master.rig ∧
      ∀ s : Side, s.stateWindow (Master.domain c.receivePhase.2.link.master) =
        some (c.receivePhase.2.link.master.rig.frame s (counter + 1)).toBytes := by
  have hm := h.master_receivePhase
  rw [if_pos hop] at hm
  obtain ⟨-, watchdog, d, hexchange, hstates⟩ :=
    h.master.count.exchange (h.waiting rfl).copied hslaves
  rw [← hm] at hexchange hstates
  have hdomain : Master.domain c.receivePhase.2.link.master = d := by
    rw [hexchange]
    rfl
  refine ⟨?_, ?_, fun s => hdomain.symm ▸ hstates s⟩
  · rw [hexchange]
    exact List.forall₂_map_right_iff.mpr (hslaves.imp fun s slave hseated => hseated.updated)
  · rw [hexchange]
    exact c.link.master.exchanged_serveAll _

/-- When they are not, the slaves are as they were. -/
theorem Synced.not_exchanged {last : Option (Command α)} (h : Synced last ⟨c, true⟩)
    (hop : c.receivePhase.2.linkState ≠ .op) :
    c.receivePhase.2.link.master.slaves = c.link.master.slaves := by
  rw [h.master_receivePhase, if_neg hop]
  rfl

/-- What a cycle delivers is the rig that its own exchange has left. -/
theorem Sensed.receive (h : Sensed ⟨c, true⟩) :
    Sensed ⟨c.receivePhase.2, false⟩ ∧ ∀ s, c.receivePhase.1 = some s →
      c.link.master.Exchanged c.receivePhase.2.link.master.rig ∧
        s = c.receivePhase.2.link.master.rig.snapshot.map Transmit.round := by
  obtain ⟨last, hsynced⟩ := h.synced
  obtain ⟨counter, hslaves, hcodecs⟩ := h.follows
  obtain ⟨hreceived, hnoted, -, -⟩ := c.receivePhase_received
  have hafter : ∃ last, Synced last ⟨c.receivePhase.2, false⟩ := ⟨last, hsynced.step_receive⟩
  by_cases hop : c.receivePhase.2.linkState = .op
  · obtain ⟨hupdated, hmoved, hstates⟩ := hsynced.exchanged hslaves hop
    have hin : c.receivePhase.2.link.inOp = true := hnoted.mpr hop
    by_cases hup : c.link.inOp = true
    · -- The codecs have seen the counter before this one, so they take the states for fresh.
      obtain ⟨hsome, hdecoded⟩ := hreceived.decoded hop hup
      have hseen : List.Forall₂ (Medulla.Follows true counter) [Side.left, Side.right]
          c.link.slaves := hup ▸ hcodecs
      obtain ⟨hfollows, hsnapshot⟩ := Medulla.decodeAll_follows hseen hstates c.snapshot
      rw [← hdecoded] at hfollows hsnapshot
      refine ⟨⟨hafter, counter + 1, hupdated, hin.symm ▸ hfollows⟩, fun s hs => ⟨hmoved, ?_⟩⟩
      rw [hsome] at hs
      cases hs
      exact hsnapshot
    · -- The slaves have just come up, so the codecs take over the new counter.
      obtain ⟨hnone, -, hpost⟩ := hreceived.setUp hop hup
      refine ⟨⟨hafter, counter + 1, hupdated, ?_⟩, fun s hs => ?_⟩
      · rw [hin, hpost]
        exact List.forall₂_map_right_iff.mpr
          (hcodecs.imp fun s m hfollows => hfollows.postOp (hstates s))
      · rw [hnone] at hs
        cases hs
  · obtain ⟨hnone, -, hsame⟩ := hreceived.withheld hop
    have hout : c.receivePhase.2.link.inOp = false := Bool.eq_false_iff.mpr (mt hnoted.mp hop)
    refine ⟨⟨hafter, counter, ?_, ?_⟩, fun s hs => ?_⟩
    · rw [hsynced.not_exchanged hop]
      exact hslaves
    · rw [hout, hsame]
      exact hcodecs.imp fun s m hfollows => hfollows.down counter
    · rw [hnone] at hs
      cases hs

theorem Sensed.step (h : Sensed i) (hstep : RigStep i i') : Sensed i' := by
  cases hstep with
  | setLeg c waiting s l => exact h.withRig _
  | setPosition c waiting p => exact h.withRig _
  | piece r hpiece =>
    cases hpiece with
    | start c => exact h.start
    | stop c =>
      obtain ⟨last, hsynced⟩ := h.synced
      exact ⟨⟨last, hsynced.step (.stop c)⟩, h.follows⟩
    | send c now hrunning => exact h.send hrunning now
    | receive c => exact h.receive.1
    | submit c waiting cmd => exact h.submit cmd

/-! ## Runs -/

theorem sensed_configured {index : Nat} {sim : SimParams α} {period : α} {m : SimMaster α}
    (hrequest : SimMaster.request index sim period = .ok m) {p : FieldbusParams α} {now : Nat}
    {c : Connection (SimMaster α) α} (hconfigured : (Connection.configure p now m).1 = .ok c) :
    Sensed ⟨c, false⟩ := by
  refine ⟨⟨none, synced_configured hrequest hconfigured⟩, 0, ?_⟩
  rw [SimMaster.configure_ok hrequest hconfigured]
  refine ⟨SimMaster.slavePair_seated, ?_⟩
  exact .cons ⟨rfl, rfl, rfl, Bool.noConfusion, rfl⟩
    (.cons ⟨rfl, rfl, rfl, Bool.noConfusion, rfl⟩ .nil)

/-- However the connection is used and the rig is moved, a cycle that delivers a state has stepped
the plant, and the state is that of the rig afterwards, every quantity rounded. No codec ever counts
a stale frame. -/
theorem reachable_delivers_rig {index : Nat} {sim : SimParams α} {period : α} {m : SimMaster α}
    (hrequest : SimMaster.request index sim period = .ok m) {p : FieldbusParams α} {now : Nat}
    {c₀ : Connection (SimMaster α) α} (hconfigured : (Connection.configure p now m).1 = .ok c₀)
    (hreach : Relation.ReflTransGen RigStep ⟨c₀, false⟩ i) :
    (∀ codec ∈ i.connection.link.slaves, codec.numStale = 0) ∧
      ∀ c s c', i = ⟨c, true⟩ → c.receivePhase = (some s, c') →
        c.link.master.Exchanged c'.link.master.rig ∧
          s = c'.link.master.rig.snapshot.map Transmit.round := by
  have hsensed : Sensed i := by
    induction hreach with
    | refl => exact sensed_configured hrequest hconfigured
    | tail _ hstep ih => exact ih.step hstep
  refine ⟨?_, fun c s c' hi hreceive => ?_⟩
  · obtain ⟨counter, -, hcodecs⟩ := hsensed.follows
    match i.connection.link.slaves, hcodecs with
    | [left, right], .cons hleft (.cons hright .nil) =>
      simp only [List.forall_mem_cons, List.not_mem_nil, false_implies, implies_true, and_true]
      exact ⟨hleft.fresh, hright.fresh⟩
  · subst hi
    obtain ⟨-, hdelivered⟩ := hsensed.receive
    rw [hreceive] at hdelivered
    exact hdelivered s rfl

/-- The connection of two slaves that are operational from the first frame on, after a cycle. -/
def promptOnce : Connection (SimMaster Float) Float :=
  (promptConnection.start.2.sendPhase 1).receivePhase.2

/-- The same when a command is submitted while the next cycle waits for its frame. -/
def promptTwice : Connection (SimMaster Float) Float := (promptOnce.sendPhase 2).submit promptCommand

/-- The second cycle delivers the rig as the command that was just submitted has moved it. -/
theorem promptBus_delivers_rig : ∃ s c',
    Relation.ReflTransGen RigStep ⟨promptConnection, false⟩ ⟨promptTwice, true⟩ ∧
      promptTwice.receivePhase = (some s, c') ∧
      promptTwice.link.master.Exchanged c'.link.master.rig ∧
      s = c'.link.master.rig.snapshot.map Transmit.round := by
  have hlimit : promptBus.sim.linkUpCycles ≤ Word.max32 := by decide
  have hparams : promptConnection.link.master.params = promptBus.sim := rfl
  obtain ⟨-, hstarted⟩ :=
    (synced_configured promptBus_requested promptBus_configured).started hparams
  have honce : Started promptBus.sim 1 ⟨promptOnce, false⟩ :=
    (Started.receivePhase hlimit (hstarted.sendPhase 1)).1
  obtain ⟨-, hdelivered⟩ := Started.receivePhase hlimit ((honce.sendPhase 2).submit promptCommand)
  obtain ⟨s, hs⟩ : ∃ s, promptTwice.receivePhase.1 = some s :=
    Option.isSome_iff_exists.mp (hdelivered.mpr (by decide))
  have hreach : Relation.ReflTransGen RigStep ⟨promptConnection, false⟩ ⟨promptTwice, true⟩ :=
    ((((Relation.ReflTransGen.single (.piece _ (.start promptConnection))).tail
      (.piece _ (.send _ 1 hstarted.running))).tail (.piece _ (.receive _))).tail
      (.piece _ (.send promptOnce 2 honce.running))).tail (.piece _ (.submit _ true promptCommand))
  have hreceive : promptTwice.receivePhase = (some s, promptTwice.receivePhase.2) := by
    rw [← hs]
  obtain ⟨-, hexact⟩ := reachable_delivers_rig promptBus_requested promptBus_configured hreach
  exact ⟨s, _, hreach, hreceive, hexact _ _ _ rfl hreceive⟩

end Interleaved

end BoomWalker
