/-
When the simulated bus delivers its first state.

Main statement: whatever was asked of a configured connection before, a start succeeds, and from then
on every cycle counts exactly one frame, however many commands are submitted before, between and
inside the cycles. So the states of the legs arrive from the cycle on that follows the one in which
the slaves have come up, and no cycle before it delivers any.

The submissions send frames of their own, but a frame is counted only when it is received, and only a
cycle receives. The count stops at the largest word, which is no less than the frames that the slaves
take to come up.
-/
import BoomWalker.Proofs.Fieldbus.Delivery

namespace BoomWalker

variable {α : Type}

/-! ## Events between two starts -/

namespace BusEvent

/-- Is a cycle asked for? -/
def isCycle : BusEvent α → Bool
  | cycle _ _ => true
  | _ => false

/-- Does a connection that runs still run after the event? -/
def keepsRunning : BusEvent α → Bool
  | cycle _ _ => true
  | submit _ => true
  | _ => false

/-- The number of cycles that are asked for. -/
def cycles (es : List (BusEvent α)) : Nat := es.countP isCycle

end BusEvent

namespace SimMaster

/-- The slaves of an active master are operational when enough frames have been counted. -/
theorem linkState_eq_op {m : SimMaster α} (hactive : m.active = true) :
    m.linkState = .op ↔ m.params.linkUpCycles ≤ m.numFrames := by
  unfold linkState
  rw [if_neg (not_not.mpr hactive)]
  constructor
  · intro hop
    by_contra hnot
    rw [if_neg hnot] at hop
    split at hop <;> cases hop
  · intro hup
    exact if_pos hup

end SimMaster

/-! ## Counting frames -/

namespace Interleaved

variable [Scalar α] [Transmit α] {c : Connection (SimMaster α) α}

theorem count_sendPhase (c : Connection (SimMaster α) α) (now : Nat) :
    (c.sendPhase now).link.master.params = c.link.master.params ∧
      (c.sendPhase now).link.master.numFrames = c.link.master.numFrames := by
  obtain ⟨rig, -, hm⟩ := master_sendPhase c now
  obtain ⟨hparams, hframes, -⟩ := SimMaster.send_keeps { c.link.master with rig }
  rw [hm]
  exact ⟨hparams, hframes⟩

/-- A submission sends a frame, but counts none. -/
theorem count_submit (c : Connection (SimMaster α) α) (cmd : Command α) :
    (c.submit cmd).link.master.params = c.link.master.params ∧
      (c.submit cmd).link.master.numFrames = c.link.master.numFrames := by
  let bytes := (Medulla.encodeAll cmd c.link.slaves (Master.domain c.link.master)).2
  obtain ⟨hparams, hframes, -⟩ := SimMaster.send_keeps (Master.setDomain bytes c.link.master)
  exact ⟨hparams, hframes⟩

/-- The frame that a cycle waits for is counted once. -/
theorem count_receivePhase (h : c.link.master.InFlight) :
    c.receivePhase.2.link.master.params = c.link.master.params ∧
      c.receivePhase.2.link.master.numFrames =
        min (c.link.master.numFrames + 1) Word.max32 := by
  obtain ⟨-, -, -, hm⟩ := c.receivePhase_received
  have hmaster : c.receivePhase.2.link.master = c.link.master.receive.processDomain := hm
  rw [hmaster, h.processDomain]
  split
  · obtain ⟨hparams, -, hframes, -⟩ := c.link.master.receive.count.exchange_keeps
    exact ⟨hparams, hframes⟩
  · exact ⟨rfl, rfl⟩

/-- No piece changes the parameters of the bus. -/
theorem params_step {i i' : Interleaved (SimMaster α) α} {r : Region α}
    {last : Option (Command α)} (h : Synced last i) (hstep : Step i r i') :
    i'.connection.link.master.params = i.connection.link.master.params := by
  cases hstep with
  | start c =>
    obtain ⟨copy, hstart, -⟩ := h.start_ok
    rw [hstart]
  | stop c => rfl
  | send c now hrunning => exact (count_sendPhase c now).1
  | receive c => exact (count_receivePhase (h.waiting rfl)).1
  | submit c waiting cmd => exact (count_submit c cmd).1

/-! ## Since the latest start -/

variable {sim : SimParams α} {k : Nat} {waiting : Bool}

/-- A connection that runs and has received `k` frames since it was started. -/
structure Started (sim : SimParams α) (k : Nat) (i : Interleaved (SimMaster α) α) : Prop where
  synced : ∃ last, Synced last i
  running : i.connection.running = true
  params : i.connection.link.master.params = sim
  counted : i.connection.link.master.numFrames = min k Word.max32
  inOp : i.connection.link.inOp = true ↔ max sim.linkUpCycles 1 ≤ k

/-- A start succeeds, and nothing has been received since. -/
theorem Synced.started {last : Option (Command α)} (h : Synced last ⟨c, false⟩)
    (hparams : c.link.master.params = sim) :
    c.start.1 = .ok () ∧ Started sim 0 ⟨c.start.2, false⟩ := by
  obtain ⟨copy, hstart, hsynced⟩ := h.start_ok
  rw [hstart] at hsynced ⊢
  have hnone : ¬ max sim.linkUpCycles 1 ≤ 0 := by omega
  exact ⟨rfl, ⟨last, hsynced⟩, rfl, hparams, rfl, iff_of_false Bool.false_ne_true hnone⟩

theorem Started.sendPhase (h : Started sim k ⟨c, false⟩) (now : Nat) :
    Started sim k ⟨c.sendPhase now, true⟩ := by
  obtain ⟨last, hsynced⟩ := h.synced
  obtain ⟨hparams, hframes⟩ := count_sendPhase c now
  exact ⟨⟨last, hsynced.step_send h.running now⟩, h.running, hparams.trans h.params,
    hframes.trans h.counted, h.inOp⟩

theorem Started.submit (h : Started sim k ⟨c, waiting⟩) (cmd : Command α) :
    Started sim k ⟨c.submit cmd, waiting⟩ := by
  obtain ⟨last, hsynced⟩ := h.synced
  obtain ⟨hparams, hframes⟩ := count_submit c cmd
  exact ⟨⟨some cmd, hsynced.step_submit cmd⟩, h.running, hparams.trans h.params,
    hframes.trans h.counted, h.inOp⟩

theorem Started.submits (h : Started sim k ⟨c, waiting⟩) (cmds : List (Command α)) :
    Started sim k ⟨cmds.foldl .submit c, waiting⟩ := by
  induction cmds generalizing c with
  | nil => exact h
  | cons cmd cmds ih => exact ih (h.submit cmd)

/-- One more frame is counted. A state is delivered exactly if enough frames had been received
before this one. -/
theorem Started.receivePhase (hlimit : sim.linkUpCycles ≤ Word.max32)
    (h : Started sim k ⟨c, true⟩) :
    Started sim (k + 1) ⟨c.receivePhase.2, false⟩ ∧
      (c.receivePhase.1.isSome = true ↔ max sim.linkUpCycles 1 ≤ k) := by
  obtain ⟨last, hsynced⟩ := h.synced
  obtain ⟨hreceived, hnoted, hstill, -⟩ := c.receivePhase_received
  obtain ⟨hparams, hframes⟩ := count_receivePhase (hsynced.waiting rfl)
  obtain ⟨-, hactive, -⟩ := hsynced.delivered
  have hcounted : c.receivePhase.2.link.master.numFrames = min (k + 1) Word.max32 := by
    have hbefore : c.link.master.numFrames = min k Word.max32 := h.counted
    rw [hframes, hbefore]
    omega
  -- The count stops at the largest word, but not before the slaves have come up.
  have hop : c.receivePhase.2.linkState = .op ↔ sim.linkUpCycles ≤ k + 1 := by
    refine (SimMaster.linkState_eq_op hactive).trans ?_
    rw [hparams, h.params, hcounted]
    omega
  have hbefore : c.link.inOp = true ↔ max sim.linkUpCycles 1 ≤ k := h.inOp
  refine ⟨⟨⟨last, hsynced.step_receive⟩, hstill.trans h.running, hparams.trans h.params, hcounted,
    hnoted.trans (hop.trans ?_)⟩, ?_⟩
  · omega
  · rw [hreceived.isSome_iff, hop, hbefore]
    omega

/-- One more cycle, with the submissions inside it. -/
theorem Started.cycle (hlimit : sim.linkUpCycles ≤ Word.max32) (h : Started sim k ⟨c, false⟩)
    (now : Nat) (between : List (Command α)) :
    ∃ s c', c.cycle now between = (.ok s, c') ∧ Started sim (k + 1) ⟨c', false⟩ ∧
      (s.isSome = true ↔ max sim.linkUpCycles 1 ≤ k) := by
  obtain ⟨hafter, hdelivered⟩ :=
    Started.receivePhase hlimit ((h.sendPhase now).submits between)
  exact ⟨_, _, Connection.cycle_of_running h.running now between, hafter, hdelivered⟩

/-- The cycles of a run are the frames that are received in it. -/
theorem Started.run (hlimit : sim.linkUpCycles ≤ Word.max32) (h : Started sim k ⟨c, false⟩)
    {fs : List (BusEvent α)} (hfs : ∀ f ∈ fs, f.keepsRunning = true) :
    ∃ c', ((Bus.connected c).run fs).1 = .connected c' ∧
      Started sim (k + BusEvent.cycles fs) ⟨c', false⟩ := by
  -- A cycle adds one received frame, and a submission adds none.
  induction fs generalizing c k with
  | nil => exact ⟨c, rfl, h⟩
  | cons f fs ih =>
    have hrest : ∀ f ∈ fs, f.keepsRunning = true := fun g hg => hfs g (List.mem_cons_of_mem f hg)
    cases f with
    | cycle now between =>
      obtain ⟨s, c₁, hcycle, hstarted, -⟩ := h.cycle hlimit now between
      obtain ⟨c', hrun, hend⟩ := ih hstarted hrest
      have hcount : k + BusEvent.cycles (.cycle now between :: fs) =
          k + 1 + BusEvent.cycles fs := by
        unfold BusEvent.cycles
        rw [List.countP_cons_of_pos rfl]
        omega
      refine ⟨c', ?_, hcount ▸ hend⟩
      rw [Bus.run_cons, Bus.step_cycle_ok hcycle]
      exact hrun
    | submit cmd =>
      obtain ⟨c', hrun, hend⟩ := ih (h.submit cmd) hrest
      exact ⟨c', hrun, hend⟩
    | start => cases hfs _ List.mem_cons_self
    | stop => cases hfs _ List.mem_cons_self
    | cleanup => cases hfs _ List.mem_cons_self

/-- Whatever happened before, a start succeeds, and the cycles that follow it deliver states from the
one on that comes after as many as the slaves take to come up, and never in the first. -/
theorem run_delivers_after_link_up {index : Nat} {period : α} {m : SimMaster α}
    (hrequest : SimMaster.request index sim period = .ok m) {p : FieldbusParams α} {now : Nat}
    {c₀ : Connection (SimMaster α) α} (hconfigured : (Connection.configure p now m).1 = .ok c₀)
    (hlimit : sim.linkUpCycles ≤ Word.max32) {es fs : List (BusEvent α)}
    (hes : ∀ e ∈ es, e ≠ .cleanup) (hfs : ∀ f ∈ fs, f.keepsRunning = true) :
    ∃ c₁ c, ((Bus.connected c₀).run es).1 = .connected c₁ ∧ c₁.start.1 = .ok () ∧
      ((Bus.connected c₀).run (es ++ .start :: fs)).1 = .connected c ∧
      ∀ now between, ∃ s c', c.cycle now between = (.ok s, c') ∧
        (s.isSome = true ↔ max sim.linkUpCycles 1 < BusEvent.cycles fs + 1) := by
  -- Of what happened before the start only the parameters matter, since it counts afresh.
  obtain ⟨rs, c₁, hbefore, hsteps⟩ := steps_run (c := c₀) hes
  obtain ⟨⟨last, hsynced⟩, hparams⟩ := hsteps.invariant
    (P := fun _ i => (∃ last, Synced last i) ∧ i.connection.link.master.params = sim)
    ⟨⟨none, synced_configured hrequest hconfigured⟩, by
      rw [SimMaster.configure_ok hrequest hconfigured, SimMaster.request_ok hrequest]⟩
    fun rs i₁ r i₂ h hstep => by
      obtain ⟨⟨last, hsynced⟩, hparams⟩ := h
      exact ⟨⟨_, hsynced.step hstep⟩, (params_step hsynced hstep).trans hparams⟩
  obtain ⟨hstart, hstarted⟩ := hsynced.started hparams
  obtain ⟨c, hrun, hend⟩ := hstarted.run hlimit hfs
  rw [Nat.zero_add] at hend
  refine ⟨c₁, c, hbefore, hstart, ?_, fun now between => ?_⟩
  · have hstarts : c₁.start = (.ok (), c₁.start.2) := Prod.ext hstart rfl
    rw [Bus.run_append, hbefore, Bus.run_cons, Bus.step_start_ok hstarts]
    exact hrun
  · obtain ⟨s, c', hcycle, -, hdelivered⟩ := hend.cycle hlimit now between
    exact ⟨s, c', hcycle, hdelivered.trans Nat.lt_succ_iff.symm⟩

/-- Slaves that are operational from the first frame on: after a restart the second cycle delivers a
state again, with submissions inside and between the cycles. -/
theorem promptBus_delivers_after_link_up :
    ∃ c s c', ((Bus.connected promptConnection).run
        ([.start, .cycle 1 [], .cycle 2 [], .stop] ++
          .start :: [.cycle 3 [promptCommand], .submit promptCommand])).1 = .connected c ∧
      c.cycle 4 [promptCommand] = (.ok (some s), c') := by
  have hes : ∀ e ∈ ([.start, .cycle 1 [], .cycle 2 [], .stop] : List (BusEvent Float)),
      e ≠ .cleanup := by simp
  have hfs : ∀ f ∈ ([.cycle 3 [promptCommand], .submit promptCommand] : List (BusEvent Float)),
      f.keepsRunning = true := by simp [BusEvent.keepsRunning]
  obtain ⟨-, c, -, -, hrun, hcycle⟩ := run_delivers_after_link_up promptBus_requested
    promptBus_configured (by decide) hes hfs
  obtain ⟨s, c', hcycles, hdelivered⟩ := hcycle 4 [promptCommand]
  obtain ⟨state, rfl⟩ := Option.isSome_iff_exists.mp (hdelivered.mpr (by decide))
  exact ⟨c, state, c', hrun, hcycles⟩

end Interleaved

end BoomWalker
