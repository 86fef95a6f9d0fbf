/-
The stance leg of canonical walking.

Main statement: the leg that bears the load when a cycle begins is the left one if and only if an
even number of steps was completed since the stance leg was last put back to the left. A disabled
cycle and a stopping cycle put it back, and every controller begins with it. A standing cycle does
not, though it holds the pose with the left leg in stance, and neither does a request to be made
safe. So walking can begin on the right leg (`not_always_enters_left`).
-/
import BoomWalker.Proofs.Gait.CanonWalk.Cycle
import BoomWalker.Proofs.Gait.Resuming

namespace BoomWalker.CanonWalk

variable {α : Type} [Scalar α]

/-! ## Events -/

/-- The mode of an event, if it is an enabled cycle. -/
def mode? : GaitControl.Event (gait : Gait α) → Option Mode
  | .process ⟨_, i, true⟩ => some (Mode.ofSelector (Input.mainController i))
  | .process ⟨_, _, false⟩ => none
  | .makeSafe => none

/-- Does the event put the stance leg back to the left? -/
def restores : GaitControl.Event (gait : Gait α) → Bool
  | .process ⟨_, i, true⟩ => Mode.ofSelector (Input.mainController i) == .stopping
  | .process ⟨_, _, false⟩ => true
  | .makeSafe => false

/-! ## One event -/

/-- What an event makes of the stance leg and of the step count: it puts the leg back, leaves both
as they are, or completes a step, and only a walking cycle does the last. -/
theorem step_cases (c : GaitControl (gait : Gait α)) (e : GaitControl.Event (gait : Gait α)) :
    let s : State α := c.gait
    let s' : State α := (c.step e).1.gait
    restores e = true ∧ s'.stance = .left ∨
      restores e = false ∧ s'.stance = s.stance ∧ s'.numSteps = s.numSteps ∨
      restores e = false ∧ mode? e = some .walking ∧ s'.stance = s.stance.opposite ∧
        s'.numSteps = s.numSteps + 1 := by
  intro s s'
  rcases e with ⟨snap, i, _ | _⟩ | _
  · exact Or.inl ⟨rfl, rfl⟩
  · have hs' : s' = (evaluate c.params c.framework.cyclePeriod snap i (c.wake snap)).1 :=
      GaitControl.gait_process_enabled c snap i
    have hafter := evaluate_stance c.params c.framework.cyclePeriod snap i (c.wake snap)
    obtain ⟨hstance, hsteps⟩ := wake_stance c snap
    rw [← hs', hstance, hsteps] at hafter
    simp only [restores, mode?]
    cases hmode : Mode.ofSelector (Input.mainController i) with
    | stopping =>
      rw [hmode] at hafter
      exact Or.inl ⟨rfl, congrArg Prod.fst hafter⟩
    | standing =>
      rw [hmode] at hafter
      exact Or.inr (Or.inl ⟨rfl, congrArg Prod.fst hafter, congrArg Prod.snd hafter⟩)
    | walking =>
      simp only [hmode] at hafter
      split at hafter
      · exact Or.inr (Or.inr ⟨rfl, rfl, congrArg Prod.fst hafter, congrArg Prod.snd hafter⟩)
      · exact Or.inr (Or.inl ⟨rfl, congrArg Prod.fst hafter, congrArg Prod.snd hafter⟩)
  · exact Or.inr (Or.inl ⟨rfl, rfl, rfl⟩)

/-! ## Runs -/

section Runs

variable {c₀ : GaitControl (gait : Gait α)}

/-- The events since the stance leg was last put back. -/
def sinceRestored (es : List (GaitControl.Event (gait : Gait α))) :
    List (GaitControl.Event (gait : Gait α)) := es.rtakeWhile fun e => !restores e

/-- The events up to the last one that put the stance leg back. -/
def untilRestored (es : List (GaitControl.Event (gait : Gait α))) :
    List (GaitControl.Event (gait : Gait α)) := es.rdropWhile fun e => !restores e

theorem restored_concat_of_true {e : GaitControl.Event (gait : Gait α)}
    (h : restores e = true) (es : List (GaitControl.Event (gait : Gait α))) :
    sinceRestored (es ++ [e]) = [] ∧ untilRestored (es ++ [e]) = es ++ [e] := by
  unfold sinceRestored untilRestored
  rw [List.rtakeWhile_concat, List.rdropWhile_concat]
  simp only [h, Bool.not_true, Bool.false_eq_true, if_false, and_self]

theorem restored_concat_of_false {e : GaitControl.Event (gait : Gait α)}
    (h : restores e = false) (es : List (GaitControl.Event (gait : Gait α))) :
    sinceRestored (es ++ [e]) = sinceRestored es ++ [e] ∧
      untilRestored (es ++ [e]) = untilRestored es := by
  unfold sinceRestored untilRestored
  rw [List.rtakeWhile_concat, List.rdropWhile_concat]
  simp only [h, Bool.not_false, if_true, and_self]

/-- The number of walking cycles in a list of events. -/
def walkingCycles (es : List (GaitControl.Event (gait : Gait α))) : Nat :=
  es.countP fun e => mode? e == some .walking

/-- The stance leg of a run is known from the number of steps completed since it was put back, of
which there is at most one for each walking cycle. -/
theorem stance_run (hc₀ : c₀.Created) (es : List (GaitControl.Event (gait : Gait α))) :
    ∃ n ≤ walkingCycles (sinceRestored es),
      State.numSteps (c₀.run es).1.gait =
        State.numSteps (c₀.run (untilRestored es)).1.gait + n ∧
      (State.stance (c₀.run es).1.gait = .left ↔ Even n) := by
  -- From the end, since each event is judged by itself.
  induction es using List.reverseRecOn with
  | nil =>
    have hleft : State.stance c₀.gait = .left := by
      rcases hc₀.gait_eq with h | h
      · rw [h]; rfl
      · rw [h]; rfl
    exact ⟨0, le_rfl, rfl, iff_of_true hleft Even.zero⟩
  | append_singleton es e ih =>
    obtain ⟨n, hwalked, hsteps, hstance⟩ := ih
    have hevent := step_cases (c₀.run es).1 e
    rw [GaitControl.run_concat]
    rcases hevent with ⟨hback, hleft⟩ | ⟨hkeeps, hsame, hcount⟩ | ⟨hkeeps, hmode, hother, hcount⟩
    · obtain ⟨-, huntil⟩ := restored_concat_of_true hback es
      rw [huntil, GaitControl.run_concat]
      exact ⟨0, Nat.zero_le _, rfl, iff_of_true hleft Even.zero⟩
    · obtain ⟨hsince, huntil⟩ := restored_concat_of_false hkeeps es
      rw [hsince, huntil, hcount, hsame]
      refine ⟨n, hwalked.trans ?_, hsteps, hstance⟩
      unfold walkingCycles
      rw [List.countP_append]
      omega
    · obtain ⟨hsince, huntil⟩ := restored_concat_of_false hkeeps es
      rw [hsince, huntil, hcount, hother]
      refine ⟨n + 1, ?_, ?_, ?_⟩
      · unfold walkingCycles at hwalked ⊢
        rw [List.countP_append, List.countP_singleton]
        simp only [hmode, beq_self_eq_true, if_true]
        omega
      · omega
      · -- The legs have exchanged their roles, and the parity of the count has changed.
        rw [Nat.even_add_one, ← hstance]
        cases State.stance (c₀.run es).1.gait <;> decide

/-- After any events of a new controller, a walking cycle begins on the left leg if and only if an
even number of steps was completed since the last disabled or stopping cycle. It completes a step if
that leg has come to the end of it. -/
theorem run_stance (hc₀ : c₀.Created) (es : List (GaitControl.Event (gait : Gait α)))
    (snap : Snapshot α) {i : Input α} (hwalking : Mode.ofSelector i.mainController = .walking) :
    let c := (c₀.run es).1
    let restored := (c₀.run (untilRestored es)).1
    let entry := State.stance (c.wake snap)
    let report : Report α := (c.process ⟨snap, i, true⟩).2.2.gait
    (∃ n ≤ walkingCycles (sinceRestored es),
      State.numSteps c.gait = State.numSteps restored.gait + n ∧ (entry = .left ↔ Even n)) ∧
    (report.stance, report.numSteps) =
      if 1 ≤ rawTau snap entry then (entry.opposite, State.numSteps c.gait + 1)
      else (entry, State.numSteps c.gait) := by
  intro c restored entry report
  obtain ⟨hentry, hsteps⟩ := wake_stance c snap
  constructor
  · rw [show entry = State.stance c.gait from hentry]
    exact stance_run hc₀ es
  · have hreport : report = gait.report (c.process ⟨snap, i, true⟩).1.gait :=
      GaitControl.report_process c ⟨snap, i, true⟩
    have hnext : (c.process ⟨snap, i, true⟩).1.gait =
        (evaluate c.params c.framework.cyclePeriod snap i (c.wake snap)).1 :=
      GaitControl.gait_process_enabled c snap i
    have hafter := evaluate_stance c.params c.framework.cyclePeriod snap i (c.wake snap)
    rw [hwalking, hsteps] at hafter
    rw [hreport, hnext]
    exact hafter

end Runs

/-! ## Walking again -/

/-- A walking cycle in which either leg has come to the end of its step. -/
noncomputable def strideEvent : GaitControl.Event (gait : Gait ℝ) :=
  .process ⟨turning, walkInput, true⟩

/-- A cycle in the same snapshot that stops, or one that stands. -/
noncomputable def haltEvent (selector : UInt8) : GaitControl.Event (gait : Gait ℝ) :=
  .process ⟨turning, { walkInput with mainController := selector }, true⟩

/-- The first step of a controller ends on the right leg. -/
theorem stance_strideEvent :
    State.stance ((GaitControl.unconfigured (gait : Gait ℝ)).step strideEvent).1.gait = .right := by
  have hafter := evaluate_stance Params.standard (Framework.standard : Framework ℝ).cyclePeriod
    turning walkInput ((GaitControl.unconfigured (gait : Gait ℝ)).wake turning)
  rw [walkInput_mode] at hafter
  simp only [Scalar.real_le, Scalar.real_one, one_le_rawTau_turning, if_true] at hafter
  exact congrArg Prod.fst hafter

/-- Stopping after that step, walking begins on the left leg again and completes the next step. -/
theorem unconfigured_run_stance :
    let c₀ : GaitControl (gait : Gait ℝ) := .unconfigured gait
    let c := (c₀.run [strideEvent, haltEvent 2]).1
    let report : Report ℝ := (c.process ⟨turning, walkInput, true⟩).2.2.gait
    c₀.Created ∧ Mode.ofSelector walkInput.mainController = .walking ∧
      State.stance (c.wake turning) = .left ∧ report.stance = .right := by
  intro c₀ c report
  have hsince : sinceRestored [strideEvent, haltEvent 2] = [] :=
    (restored_concat_of_true (e := haltEvent 2) rfl [strideEvent]).1
  obtain ⟨⟨n, hwalked, -, hentry⟩, hreport⟩ :=
    run_stance .unconfigured [strideEvent, haltEvent 2] turning walkInput_mode
  rw [hsince] at hwalked
  obtain rfl : n = 0 := Nat.le_zero.mp hwalked
  have hleft := hentry.mpr Even.zero
  simp only [Scalar.real_le, Scalar.real_one, one_le_rawTau_turning, if_true] at hreport
  refine ⟨.unconfigured, walkInput_mode, hleft, ?_⟩
  exact (congrArg Prod.fst hreport).trans (congrArg Side.opposite hleft)

/-- Not every walk begins on the left leg: standing after that step, the next walk begins on the
right one. -/
theorem not_always_enters_left :
    ¬ ∀ (c₀ : GaitControl (gait : Gait ℝ)) (es : List (GaitControl.Event (gait : Gait ℝ)))
        (snap : Snapshot ℝ) (i : Input ℝ), c₀.Created →
        Mode.ofSelector i.mainController = .walking → es.getLast?.bind mode? ≠ some .walking →
        State.stance ((c₀.run es).1.wake snap) = .left := by
  intro henters
  have hleft := henters (.unconfigured gait) [strideEvent, haltEvent 0] turning walkInput
    .unconfigured walkInput_mode (by decide)
  have hright : State.stance
      (((GaitControl.unconfigured (gait : Gait ℝ)).run [strideEvent, haltEvent 0]).1.wake
        turning) = .right := stance_strideEvent
  rw [hright] at hleft
  cases hleft

end BoomWalker.CanonWalk
