/-
What the control loop submits to the fieldbus.

Main statement: a command that turns on the amplifiers or asks for a current is submitted only in a
cycle in which the fieldbus delivered a state, the operator is present and enables the gait, the rig
is not held safe, and overruns were never raised before. Every other command has no currents and the
code idle or fault. The commands in question are all that the fieldbus is given: replaying them
to it leads to the same connection, and the idle command follows them at the end.
-/
import BoomWalker.Proofs.Fieldbus.Phases
import BoomWalker.Proofs.Gait.Runs
import BoomWalker.Proofs.Supervisor.Overruns
import BoomWalker.Proofs.Supervisor.Runs

namespace BoomWalker

variable {α : Type}

/-! ## Fresh states -/

namespace Supervisor

variable {g : Gait α}

theorem assess_fresh (s : Supervisor g) (raised : Bool) (c : SafeCause) :
    (s.assess raised c).store.fresh = s.store.fresh := by
  cases raised with
  | true => rfl
  | false => rfl

theorem informed_stale (read : String → Option (OperatorPacket g.Input)) (s : Supervisor g)
    (i : CycleInput α) (hstate : i.state = none) :
    (s.informed read i).store.fresh = false := by
  have hheard : (s.hear read i.time i.receipts).store.fresh = false := assess_fresh _ _ _
  unfold informed observe
  rw [hstate, assess_fresh]
  exact hheard

theorem informed_fresh (read : String → Option (OperatorPacket g.Input)) (s : Supervisor g)
    (i : CycleInput α) {snap : Snapshot α} (hstate : i.state = some snap) :
    (s.informed read i).store.fresh = true ∧ (s.informed read i).store.snapshot = some snap := by
  unfold informed observe
  rw [hstate]
  exact ⟨rfl, rfl⟩

end Supervisor

/-! ## Asking a fieldbus -/

namespace Bus

variable {M : Type} [Master M] [Transmit α]

theorem step_cycle {c c' : Connection M α} {now : Nat} {between : List (Command α)}
    {s : Option (Snapshot α)} (h : c.cycle now between = (.ok s, c')) :
    ((connected c).step (.cycle now between)).1 = .connected c' := by
  simp only [step, h]

theorem run_submits (c : Connection M α) (cs : List (Command α)) :
    ((connected c).run (cs.map .submit)).1 = .connected (cs.foldl .submit c) := by
  induction cs generalizing c with
  | nil => rfl
  | cons cmd cs ih => exact ih (c.submit cmd)

end Bus

/-! ## Commands at rest -/

variable [Scalar α]

/-- Does a command turn on the amplifiers or ask for a current? -/
def Command.drives (c : Command α) : Prop := c.code = .run ∨ c.legs ≠ .both .zero

/-- Does a command leave the motors at rest, with the amplifiers off? -/
def Command.rests (c : Command α) : Prop := c = .zero .idle ∨ c = .zero .fault

theorem Command.rests_iff_not_drives (c : Command α) : c.rests ↔ ¬ c.drives := by
  obtain ⟨legs, code⟩ := c
  constructor
  · rintro (h | h) (hrun | hlegs)
    all_goals cases h
    · cases hrun
    · exact hlegs rfl
    · cases hrun
    · exact hlegs rfl
  · intro h
    have hlegs : legs = .both .zero := by
      by_contra hne
      exact h (Or.inr hne)
    subst hlegs
    cases code with
    | idle => exact Or.inl rfl
    | fault => exact Or.inr rfl
    | run => exact absurd (Or.inl rfl) h

theorem Safety.fallback_rests (s : Safety) : (s.fallback : Command α).rests := by
  unfold fallback
  split
  · exact Or.inr rfl
  · exact Or.inl rfl

/-! ## One cycle of the supervisor -/

namespace Supervisor

variable {g : Gait α}

/-- The conditions on a cycle in which a driving command is submitted. -/
structure MayDrive (read : String → Option (OperatorPacket g.Input)) (s : Supervisor g)
    (i : CycleInput α) : Prop where
  delivered : ∃ snap, i.state = some snap
  enabled : (s.informed read i).latch.enabled = true
  released : (s.informed read i).store.safety.safe = false

/-- Without a fresh state the gait is not asked. -/
theorem decide_of_stale {s : Supervisor g} (hfresh : s.store.fresh = false) :
    s.decide.1.store.command = s.store.safety.fallback := by
  unfold decide
  simp only [hfresh]

/-- The gait's answer counts unless the rig is held safe. -/
theorem decide_of_fresh {s : Supervisor g} {snap : Snapshot α} (hfresh : s.store.fresh = true)
    (hsnap : s.store.snapshot = some snap) :
    s.decide.1.store.command =
      let control := if s.store.safety.safe then s.control.makeSafe else s.control
      if s.store.safety.safe then s.store.safety.fallback
      else (control.process ⟨snap, s.latch.params g.defaultInput,
        s.latch.enabled && !s.store.safety.safe⟩).2.1 := by
  unfold decide
  simp only [hfresh, hsnap]
  rfl

/-- The command that a cycle submits first. -/
theorem decide_command (read : String → Option (OperatorPacket g.Input)) (s : Supervisor g)
    (i : CycleInput α) :
    MayDrive read s i ∨ (s.informed read i).decide.1.store.command.rests := by
  cases hstate : i.state with
  | none =>
    rw [decide_of_stale (informed_stale read s i hstate)]
    exact Or.inr (Safety.fallback_rests _)
  | some snap =>
    obtain ⟨hfresh, hsnap⟩ := informed_fresh read s i hstate
    rw [decide_of_fresh hfresh hsnap]
    cases hsafe : (s.informed read i).store.safety.safe with
    | true => exact Or.inr (Safety.fallback_rests _)
    | false =>
      -- Link down may have been cleared while the operator is lost: then the latch is what counts.
      cases henabled : (s.informed read i).latch.enabled with
      | true => exact Or.inl ⟨⟨snap, hstate⟩, henabled, hsafe⟩
      | false => exact Or.inr (Or.inl rfl)

/-- What the end of a cycle submits, if anything, is the fault. -/
theorem settle_submits (limits : CycleLimits) (s : Supervisor g) (elapsed : Nat) {c : Command α}
    (hc : (s.settle limits elapsed).2 = some c) : c = .zero .fault := by
  unfold settle judge at hc
  by_cases hperiod : elapsed ≤ limits.period
  · simp only [if_pos hperiod] at hc
    cases hc
  · simp only [if_neg hperiod] at hc
    split at hc
    · cases hc
      show Safety.fallback (s.store.safety.makeSafe .cycleOverrun) = _
      unfold Safety.fallback
      rw [if_pos (Safety.makeSafe_cycleOverrun _)]
    · cases hc

/-- Every command of a cycle leaves the motors at rest, unless the cycle may drive. -/
theorem cycle_submitted (limits : CycleLimits)
    (read : String → Option (OperatorPacket g.Input)) (s : Supervisor g) (i : CycleInput α)
    {c : Command α}
    (hc : c ∈ (s.cycle limits read i).2.submitted) :
    MayDrive read s i ∨ c.rests := by
  have hsubmitted : (s.cycle limits read i).2.submitted =
      (s.informed read i).decide.1.store.command ::
        ((s.work read i).1.settle limits i.elapsed).2.toList := rfl
  rw [hsubmitted, List.mem_cons, Option.mem_toList] at hc
  obtain hfirst | hfault := hc
  · rw [hfirst]
    exact decide_command read s i
  · exact Or.inr (Or.inr (settle_submits limits _ i.elapsed hfault))

end Supervisor

/-! ## The loop on a fieldbus -/

namespace ControlLoop

variable {M : Type} [Master M] [Transmit α] {g : Gait α} {limits : CycleLimits}
  {read : String → Option (OperatorPacket g.Input)} {max : Option Nat}

/-- What the fieldbus is asked in the cycles of a run: a cycle, and then the submissions. -/
def busEvents (ms : List (Moment α)) (os : List (CycleOutput g)) : List (BusEvent α) :=
  (ms.zip os).flatMap fun (m, o) => .cycle m.busTime [] :: o.submitted.map .submit

/-- Replaying the events of a run to the fieldbus leads to the connection that the run leaves. -/
theorem run_busEvents (l : ControlLoop M g) (ms : List (Moment α)) :
    ((Bus.connected l.connection).run (busEvents ms (l.run limits read max ms).2.2)).1 =
      .connected (l.run limits read max ms).1.connection := by
  induction ms generalizing l with
  | nil => rfl
  | cons m ms ih =>
    obtain hends | ⟨l', o, _, hcycle, -, hgoes⟩ := run_cons limits read max l m
    · rw [(hends ms).1, (hends ms).2.1]
      rfl
    · obtain ⟨state, connection, hbus, -, hconnection⟩ := cycle_ok hcycle
      have hevents : (busEvents (m :: ms) (o :: (l'.run limits read max ms).2.2) :
          List (BusEvent α)) =
          .cycle m.busTime [] ::
            (o.submitted.map .submit ++ busEvents ms (l'.run limits read max ms).2.2) := rfl
      rw [(hgoes ms).1, (hgoes ms).2.1, ← ih l', hconnection, hevents]
      show (Bus.run ((Bus.connected l.connection).step (.cycle m.busTime [])).1 _).1 = _
      rw [Bus.step_cycle hbus, Bus.run_append, Bus.run_submits]

/-- Before each cycle of a run, the supervisor tracks the cycles so far. -/
theorem tracks_before {l : ControlLoop M g} {past : List Nat}
    (htracks : l.supervisor.Tracks limits past) {ms : List (Moment α)} {k : Nat}
    (hk : k ≤ (l.run limits read max ms).2.2.length) :
    (l.run limits read max (ms.take k)).1.supervisor.Tracks limits
      (past ++ (ms.take k).map Moment.elapsed) := by
  have hstart : l.supervisor.Tracks limits (past ++ []) := by
    rw [List.append_nil]
    exact htracks
  have hbefore := run_before max
    (P := fun is s => s.Tracks limits (past ++ is.map CycleInput.elapsed)) hstart
    (fun is s i h => by
      rw [List.map_append, ← List.append_assoc]
      exact h.cycle read i) ms k
  rw [elapsed_inputs_take hk] at hbefore
  exact hbefore

theorem run_cycle {l : ControlLoop M g} {past : List Nat}
    (htracks : l.supervisor.Tracks limits past) (ms : List (Moment α)) (k : Nat)
    {o : CycleOutput g} (ho : (l.run limits read max ms).2.2[k]? = some o) :
    ∃ m l', ms[k]? = some m ∧
      (l.run limits read max (ms.take k)).1.supervisor.Tracks limits
        (past ++ (ms.take k).map Moment.elapsed) ∧
      (l.run limits read max (ms.take k)).1.cycle limits read m = (l', .ok o) := by
  obtain ⟨m, state, hm, -, -, hcycle⟩ := run_place l ms k ho
  have hk := Nat.le_of_lt (List.getElem?_eq_some_iff.mp ho).1
  exact ⟨m, _, hm, tracks_before htracks hk, hcycle⟩

/-- A driving command is submitted only in a cycle that may drive, and before any overruns were
raised. In every other cycle, and as the last of a run, only commands at rest are submitted. -/
theorem run_submitted (control : GaitControl g) (timeout : Nat) (rate : α)
    (connection : Connection M α) (limits : CycleLimits)
    (read : String → Option (OperatorPacket g.Input)) (max : Option Nat) (ms : List (Moment α)) :
    let l : ControlLoop M g := ⟨.new control timeout rate, connection⟩
    let r := l.run limits read max ms
    (∀ k o, r.2.2[k]? = some o → ∃ m state,
      let before := (l.run limits read max (ms.take k)).1
      let i : CycleInput α := ⟨m.time, m.receipts, state, m.elapsed⟩
      ms[k]? = some m ∧ (before.connection.cycle m.busTime []).1 = .ok state ∧
        ∀ c ∈ o.submitted,
          (c.drives → before.supervisor.MayDrive read i ∧
            ¬ limits.Raised ((ms.take k).map Moment.elapsed)) ∧
          (¬ c.drives ∨ ¬ before.supervisor.MayDrive read i → c.rests)) ∧
    ((Bus.connected connection).run (busEvents ms r.2.2)).1 = .connected r.1.connection ∧
    ((Bus.connected r.1.connection).run [.submit (.zero .idle), .stop, .cleanup]).1 =
      .closed r.1.shutDown := by
  intro l r
  refine ⟨fun k o ho => ?_, run_busEvents l ms, rfl⟩
  have htracks : l.supervisor.Tracks limits [] :=
    Supervisor.tracks_new limits control timeout rate
  obtain ⟨m, l', hm, hbefore, hcycle⟩ := run_cycle htracks ms k ho
  obtain ⟨state, connection', hbus, hsupervisor, -⟩ := cycle_ok hcycle
  refine ⟨m, state, hm, congrArg Prod.fst hbus, fun c hc => ?_⟩
  have hsubmitted :
      (l.run limits read max (ms.take k)).1.supervisor.MayDrive read
        ⟨m.time, m.receipts, state, m.elapsed⟩ ∨ c.rests := by
    refine Supervisor.cycle_submitted limits read _ _ ?_
    rw [hsupervisor]
    exact hc
  constructor
  · intro hdrives
    obtain hmay | hrests := hsubmitted
    · refine ⟨hmay, fun hraised => ?_⟩
      have hinformed := hbefore.informed read ⟨m.time, m.receipts, state, m.elapsed⟩
      have hoverrun := Safety.overrun_eq_false hinformed.sound hmay.released
      rw [hinformed.overrun.mpr hraised] at hoverrun
      cases hoverrun
    · exact absurd hdrives (c.rests_iff_not_drives.mp hrests)
  · rintro (hnot | hnot)
    · exact c.rests_iff_not_drives.mpr hnot
    · exact hsubmitted.resolve_left hnot

end ControlLoop

end BoomWalker
