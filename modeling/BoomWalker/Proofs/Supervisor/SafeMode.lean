/-
When the rig is held safe.

Main statement: once a cycle has heard the operator and taken in what the fieldbus delivered, the
rig is held safe exactly if overruns were raised before, or the fieldbus delivered no state, or the
operator is lost. There is one exception to the last of these. Only one cause is held at a time: if
the link went down while the operator was present, the link stays the held cause, and the first
state that arrives clears it, also if the operator has been lost in the meantime. In that one cycle
the rig is not held safe. `HeldForLink` says when this is so, from what the cycles brought alone.
-/
import BoomWalker.Fieldbus.Scripted
import BoomWalker.Gait.ConstForce
import BoomWalker.Proofs.Operator.Reception
import BoomWalker.Proofs.Supervisor.Faulting

namespace BoomWalker

variable {α : Type}

/-! ## Raising and clearing -/

namespace Safety

/-- Raise a cause of safe mode, or clear it. -/
def assess (s : Safety) (raised : Bool) (c : SafeCause) : Safety :=
  if raised then s.makeSafe c else (s.makeUnsafe c).1

/-- Without overruns there are three kinds of safe mode. -/
theorem Sound.cases {s : Safety} (h : s.Sound) (hoverrun : s.overrun = false) :
    s = .off ∨ s = ⟨true, some .guiLost⟩ ∨ s = ⟨true, some .linkDown⟩ := by
  obtain ⟨safe, cause⟩ := s
  have hsafe : safe = cause.isSome := h
  subst hsafe
  cases cause with
  | none => exact Or.inl rfl
  | some held =>
    cases held with
    | guiLost => exact Or.inr (Or.inl rfl)
    | linkDown => exact Or.inr (Or.inr rfl)
    | cycleOverrun => cases hoverrun

/-- What a cycle makes of safe mode: the operator is assessed first and the link after that. -/
theorem assess_lost_down {s : Safety} (h : s.Sound) (hoverrun : s.overrun = false)
    (lost down : Bool) :
    let t := (s.assess lost .guiLost).assess down .linkDown
    (t.safe = true ↔ down = true ∨ lost = true ∧ s.cause ≠ some .linkDown) ∧
      (t.cause = some .linkDown ↔ down = true ∧ (s.cause = some .linkDown ∨ lost = false)) := by
  -- The three kinds of safe mode, against what the operator and the link can be.
  obtain rfl | rfl | rfl := h.cases hoverrun
  all_goals cases lost <;> cases down <;> decide

end Safety

/-! ## What the cycles brought -/

namespace Supervisor

variable {g : Gait α} {limits : CycleLimits} {read : String → Option (OperatorPacket g.Input)}
  {timeout : Nat} {past : List (CycleInput α)} {s : Supervisor g}

/-- The operator's latch after cycles from the first one on. -/
def latchAfter (read : String → Option (OperatorPacket g.Input)) (timeout : Nat)
    (past : List (CycleInput α)) : OperatorLatch g.Input :=
  (OperatorLatch.new timeout).after read (past.map CycleInput.receipts)

theorem latchAfter_concat (past : List (CycleInput α)) (i : CycleInput α) :
    latchAfter read timeout (past ++ [i]) =
      ((latchAfter read timeout past).update read i.receipts).1 := by
  unfold latchAfter OperatorLatch.after
  rw [List.map_append, List.foldl_append]
  rfl

/-- The past ends in cycles in which the fieldbus delivered no state, and in one of them the
operator was present. -/
def HeldForLink (read : String → Option (OperatorPacket g.Input)) (timeout : Nat)
    (past : List (CycleInput α)) : Prop :=
  ∃ before i silent, past = before ++ i :: silent ∧ (∀ j ∈ i :: silent, j.state = none) ∧
    (latchAfter read timeout (before ++ [i])).lost = false

theorem not_heldForLink_nil : ¬ HeldForLink read timeout ([] : List (CycleInput α)) := by
  rintro ⟨before, i, silent, hpast, -⟩
  exact absurd hpast (by simp)

theorem heldForLink_concat (past : List (CycleInput α)) (i : CycleInput α) :
    HeldForLink read timeout (past ++ [i]) ↔
      i.state = none ∧ (HeldForLink read timeout past ∨
        (latchAfter read timeout (past ++ [i])).lost = false) := by
  constructor
  · rintro ⟨before, j, silent, hpast, hsilent, hpresent⟩
    -- The cycle of the operator is the last one, or one of the past.
    obtain rfl | ⟨silent, last, rfl⟩ := List.eq_nil_or_concat' silent
    · obtain ⟨rfl, hij⟩ := List.append_inj' hpast rfl
      cases hij
      exact ⟨hsilent i List.mem_cons_self, Or.inr hpresent⟩
    · rw [← List.cons_append, ← List.append_assoc] at hpast
      obtain ⟨rfl, hilast⟩ := List.append_inj' hpast rfl
      cases hilast
      rw [← List.cons_append] at hsilent
      exact ⟨hsilent i List.mem_concat_self,
        Or.inl ⟨before, j, silent, rfl, fun j' hj' => hsilent j' (List.mem_append_left _ hj'),
          hpresent⟩⟩
  · rintro ⟨hnone, ⟨before, j, silent, rfl, hsilent, hpresent⟩ | hpresent⟩
    · refine ⟨before, j, silent ++ [i], by rw [List.append_assoc, List.cons_append],
        fun j' hj' => ?_, hpresent⟩
      rw [← List.cons_append, List.mem_append, List.mem_singleton] at hj'
      obtain hj' | rfl := hj'
      · exact hsilent j' hj'
      · exact hnone
    · refine ⟨past, i, [], rfl, fun j hj => ?_, hpresent⟩
      rw [List.mem_singleton.mp hj]
      exact hnone

/-! ## One cycle -/

theorem assess_safety (s : Supervisor g) (raised : Bool) (c : SafeCause) :
    (s.assess raised c).store.safety = s.store.safety.assess raised c := by
  cases raised with
  | true => rfl
  | false => rfl

theorem informed_safety (read : String → Option (OperatorPacket g.Input)) (s : Supervisor g)
    (i : CycleInput α) :
    (s.informed read i).store.safety =
      (s.store.safety.assess (s.informed read i).latch.lost .guiLost).assess i.state.isNone
        .linkDown := by
  unfold informed observe
  rw [assess_safety, hear]
  cases i.state with
  | none => exact congrArg (Safety.assess · true .linkDown) (assess_safety _ _ _)
  | some snap => exact congrArg (Safety.assess · false .linkDown) (assess_safety _ _ _)

/-- What a supervisor remembers of its past: the overruns, the operator, and whether it is the link
for which the rig is held safe. -/
structure Remembers (limits : CycleLimits) (read : String → Option (OperatorPacket g.Input))
    (timeout : Nat) (past : List (CycleInput α)) (s : Supervisor g) : Prop where
  tracks : s.Tracks limits (past.map CycleInput.elapsed)
  latch : s.latch = latchAfter read timeout past
  cause : s.store.safety.overrun = false →
    (s.store.safety.cause = some .linkDown ↔ HeldForLink read timeout past)

/-- The latch once the operator has been heard. -/
theorem Remembers.informed_latch (h : Remembers limits read timeout past s) (i : CycleInput α) :
    (s.informed read i).latch = latchAfter read timeout (past ++ [i]) := by
  rw [latchAfter_concat, ← h.latch]
  rfl

/-- Overruns were raised exactly if they are held, also once the cycle is informed. -/
theorem Remembers.informed_overrun (h : Remembers limits read timeout past s)
    (i : CycleInput α) :
    (s.informed read i).store.safety.overrun = s.store.safety.overrun := by
  rw [Bool.eq_iff_iff, (h.tracks.informed read i).overrun, h.tracks.overrun]

/-- Whether an informed supervisor holds the rig safe. -/
theorem Remembers.informed_safe_iff (h : Remembers limits read timeout past s)
    (i : CycleInput α) :
    (s.informed read i).store.safety.safe = true ↔
      limits.Raised (past.map CycleInput.elapsed) ∨ i.state = none ∨
        (s.informed read i).latch.lost = true ∧ ¬ HeldForLink read timeout past := by
  -- Overruns hold the rig safe whatever else happens; without them the two assessments decide.
  cases hoverrun : s.store.safety.overrun with
  | true =>
    have hraised := h.tracks.overrun.mp hoverrun
    rw [(h.tracks.informed read i).overrunHeld hraised]
    exact iff_of_true rfl (Or.inl hraised)
  | false =>
    have hraised : ¬ limits.Raised (past.map CycleInput.elapsed) := by
      rw [← h.tracks.overrun, hoverrun]
      exact Bool.false_ne_true
    obtain ⟨hsafe, -⟩ := Safety.assess_lost_down h.tracks.sound hoverrun
      (s.informed read i).latch.lost i.state.isNone
    rw [or_iff_right hraised, informed_safety, hsafe, Option.isNone_iff_eq_none, Ne,
      h.cause hoverrun]

variable [Scalar α]

/-- The end of a cycle changes safe mode only by raising overruns. -/
theorem settle_safety (limits : CycleLimits) (s : Supervisor g) (elapsed : Nat) :
    (s.settle limits elapsed).1.latch = s.latch ∧
      ((s.settle limits elapsed).1.store.safety = s.store.safety ∨
        (s.settle limits elapsed).1.store.safety.overrun = true) := by
  unfold settle judge
  by_cases hperiod : elapsed ≤ limits.period
  · simp only [if_pos hperiod]
    exact ⟨trivial, Or.inl rfl⟩
  · simp only [if_neg hperiod]
    split
    · exact ⟨rfl, Or.inr (Safety.makeSafe_cycleOverrun s.store.safety)⟩
    · exact ⟨rfl, Or.inl rfl⟩

theorem decide_latch (s : Supervisor g) : s.decide.1.latch = s.latch := by
  unfold decide
  simp only
  split
  · rfl
  · rfl

/-- What a cycle leaves of the latch and of safe mode, unless it ends with overruns raised. -/
theorem cycle_safety (limits : CycleLimits) (read : String → Option (OperatorPacket g.Input))
    (s : Supervisor g) (i : CycleInput α) :
    (s.cycle limits read i).1.latch = (s.informed read i).latch ∧
      ((s.cycle limits read i).1.store.safety = (s.informed read i).store.safety ∨
        (s.cycle limits read i).1.store.safety.overrun = true) := by
  obtain ⟨hlatch, hsafety⟩ := settle_safety limits (s.work read i).1 i.elapsed
  refine ⟨hlatch.trans (decide_latch _), ?_⟩
  exact hsafety.imp_left fun h => h.trans (decide_safety _).1

theorem remembers_new (limits : CycleLimits) (read : String → Option (OperatorPacket g.Input))
    (control : GaitControl g) (timeout : Nat) (rate : α) :
    Remembers limits read timeout [] (Supervisor.new control timeout rate) where
  tracks := tracks_new limits control timeout rate
  latch := rfl
  cause := by
    intro _
    constructor
    · intro hcause
      cases hcause
    · intro hheld
      exact absurd hheld not_heldForLink_nil

theorem Remembers.cycle (h : Remembers limits read timeout past s) (i : CycleInput α) :
    Remembers limits read timeout (past ++ [i]) (s.cycle limits read i).1 := by
  obtain ⟨hlatch, hsafety⟩ := cycle_safety limits read s i
  refine ⟨?_, hlatch.trans (h.informed_latch i), fun hnone => ?_⟩
  · rw [List.map_append]
    exact h.tracks.cycle read i
  · -- Overruns raised at the end would take the place of any other cause.
    have hsame := hsafety.resolve_right (by rw [hnone]; exact Bool.false_ne_true)
    have hoverrun : s.store.safety.overrun = false := by
      rw [← h.informed_overrun i, ← hsame]
      exact hnone
    obtain ⟨-, hcause⟩ := Safety.assess_lost_down h.tracks.sound hoverrun
      (s.informed read i).latch.lost i.state.isNone
    rw [hsame, informed_safety, hcause, heldForLink_concat, Option.isNone_iff_eq_none,
      h.cause hoverrun, h.informed_latch i]

end Supervisor

/-! ## Runs of the loop -/

namespace ControlLoop

variable [Scalar α] {M : Type} [Master M] [Transmit α] {g : Gait α}

/-- In every cycle of a run, the rig is held safe after the operator has been heard and the state
taken in exactly if overruns were raised before, or no state came, or the operator is lost and it
was not for the link that the rig was held safe until then. -/
theorem run_safe_iff (control : GaitControl g) (timeout : Nat) (rate : α)
    (connection : Connection M α) (limits : CycleLimits)
    (read : String → Option (OperatorPacket g.Input)) (max : Option Nat) (ms : List (Moment α))
    (k : Nat) (o : CycleOutput g) :
    let l : ControlLoop M g := ⟨.new control timeout rate, connection⟩
    let past := (l.inputs limits read max ms).take k
    let before := (l.run limits read max (ms.take k)).1
    (l.run limits read max ms).2.2[k]? = some o →
      ∃ m state, ms[k]? = some m ∧ (before.connection.cycle m.busTime []).1 = .ok state ∧
        let i : CycleInput α := ⟨m.time, m.receipts, state, m.elapsed⟩
        let s := before.supervisor.informed read i
        (l.inputs limits read max ms)[k]? = some i ∧
          s.latch = Supervisor.latchAfter read timeout (past ++ [i]) ∧
          (s.store.safety.safe = true ↔
            limits.Raised ((ms.take k).map Moment.elapsed) ∨ state = none ∨
              s.latch.lost = true ∧ ¬ Supervisor.HeldForLink read timeout past) := by
  intro l past before ho
  obtain ⟨m, state, hm, hi, hbus, -⟩ := run_place l ms k ho
  have hremembers : before.supervisor.Remembers limits read timeout past :=
    run_before max (Supervisor.remembers_new limits read control timeout rate)
      (fun _ _ i h => h.cycle i) ms k
  have hlengths : past.map CycleInput.elapsed = (ms.take k).map Moment.elapsed :=
    elapsed_inputs_take (Nat.le_of_lt (List.getElem?_eq_some_iff.mp ho).1)
  refine ⟨m, state, hm, hbus, hi, hremembers.informed_latch _, ?_⟩
  rw [← hlengths]
  exact hremembers.informed_safe_iff _

/-- A fieldbus that was just started and whose slaves are operational from then on. It has no
slaves. -/
def startedBus : Connection ScriptedMaster Float :=
  let script : ScriptedMaster := ⟨fun _ => false, fun _ => default, [], .op, [], []⟩
  ⟨.standard, ⟨script, [], false, false⟩, 0, .zero, true, 0⟩

/-- An operator who was never heard is lost: the rig is held safe also in the second cycle, in which
a state comes. -/
theorem constForce_run_silent :
    let l : ControlLoop ScriptedMaster (ConstForce.gait : Gait Float) :=
      ⟨.new (.unconfigured _) 0 20, startedBus⟩
    let read := fun _ => some ⟨true, ConstForce.Input.standard⟩
    let ms : List (Moment Float) := [⟨0, 0, [], 0⟩, ⟨1, 1, [], 0⟩]
    (∃ o, (l.run ⟨1, 0⟩ read none ms).2.2[1]? = some o) ∧
      ((l.run ⟨1, 0⟩ read none (ms.take 1)).1.supervisor.informed read
        ⟨1, [], some .zero, 0⟩).store.safety.safe = true := by
  intro l read ms
  obtain ⟨o, ho⟩ : ∃ o, (l.run ⟨1, 0⟩ read none ms).2.2[1]? = some o := ⟨_, rfl⟩
  obtain ⟨m, state, hm, hbus, -, -, hsafe⟩ :=
    run_safe_iff (.unconfigured ConstForce.gait) 0 20 startedBus ⟨1, 0⟩ read none ms 1 o ho
  cases hm
  cases hbus
  have hheld : ¬ Supervisor.HeldForLink read 0 ((l.inputs ⟨1, 0⟩ read none ms).take 1) := by
    show ¬ Supervisor.HeldForLink read 0 ([] ++ [⟨0, [], none, 0⟩])
    rw [Supervisor.heldForLink_concat]
    rintro ⟨-, hnone | hpresent⟩
    · exact Supervisor.not_heldForLink_nil hnone
    · cases hpresent
  exact ⟨⟨o, ho⟩, hsafe.mpr (Or.inr (Or.inr ⟨rfl, hheld⟩))⟩

/-- An operator heard only in the first cycle, in which no state comes, is lost in the second. A
state comes then, and the rig is not held safe. -/
theorem constForce_run_lost :
    let l : ControlLoop ScriptedMaster (ConstForce.gait : Gait Float) :=
      ⟨.new (.unconfigured _) 0 20, startedBus⟩
    let read := fun _ => some ⟨true, ConstForce.Input.standard⟩
    let ms : List (Moment Float) := [⟨0, 0, [.text ""], 0⟩, ⟨1, 1, [], 0⟩]
    let limits : CycleLimits := ⟨1, 0⟩
    let before := (l.run limits read none (ms.take 1)).1
    (∃ o, (l.run limits read none ms).2.2[1]? = some o) ∧
      ∃ state, (before.connection.cycle 1 []).1 = .ok state ∧
        let s := before.supervisor.informed read ⟨1, [], state, 0⟩
        ¬ (s.store.safety.safe = true ↔
          s.latch.lost = true ∨ state = none ∨
            limits.Raised ((ms.take 1).map Moment.elapsed)) := by
  intro l read ms limits before
  refine ⟨⟨_, rfl⟩, some .zero, rfl, fun hiff => ?_⟩
  cases hiff.mpr (Or.inl rfl)

end ControlLoop

end BoomWalker
