/-
The parts of a cycle of canonical walking.

A cycle advances the mode, the stance leg and the phase (`State.advance`), and these decide the
targets of both legs. Each leg is then treated alike: its two limiters make one step towards its
targets, and its currents track what the limiters have reached. The lemmas say so of the state that
a cycle leaves, for any scalars.
-/
import BoomWalker.Gait.CanonWalk.Cycle
import BoomWalker.Proofs.Gait.Runs

namespace BoomWalker.CanonWalk

variable {α : Type} [Scalar α]

section Evaluate

variable (p : Params α) (period : α) (snap : Snapshot α) (i : Input α) (s : State α)

/-! ## The course of the gait -/

/-- What a cycle leaves behind is where it has advanced to, but for the limiters and the command. -/
theorem evaluate_advance :
    let s' := (evaluate p period snap i s).1
    s' = { s.advance p snap (Mode.ofSelector i.mainController) with
      limiters := s'.limiters, output := s'.output } := rfl

/-- The stance leg and the step count after a cycle. -/
theorem evaluate_stance :
    let s' := (evaluate p period snap i s).1
    (s'.stance, s'.numSteps) =
      match Mode.ofSelector i.mainController with
      | .standing => (s.stance, s.numSteps)
      | .stopping => (.left, s.numSteps)
      | .walking =>
        if 1 ≤ rawTau snap s.stance then (s.stance.opposite, s.numSteps + 1)
        else (s.stance, s.numSteps) := by
  intro s'
  have hadvance : (s'.stance, s'.numSteps) =
      ((s.advance p snap (Mode.ofSelector i.mainController)).stance,
        (s.advance p snap (Mode.ofSelector i.mainController)).numSteps) := rfl
  rw [hadvance]
  cases Mode.ofSelector i.mainController with
  | standing => rfl
  | stopping => rfl
  | walking =>
    simp only [State.advance, stepStance]
    -- The count follows the leg: it moves on exactly when the legs exchange their roles.
    by_cases hstep : 1 ≤ rawTau snap s.stance
    · simp only [if_pos hstep, if_neg s.stance.opposite_ne]
    · simp only [if_neg hstep, if_true]

/-! ## The legs -/

/-- Each limiter makes one step towards the target of its own motor. -/
theorem evaluate_limiters (side : Side) :
    (evaluate p period snap i s).1.limiters.get side =
      (s.limiters.get side).move (((evaluate p period snap i s).1.targets snap).get side)
        (RateLimiter.maxDelta p.motorRateLimit period) := by
  have hkept : (s.advance p snap (Mode.ofSelector i.mainController)).limiters = s.limiters := by
    cases Mode.ofSelector i.mainController <;> rfl
  rw [← hkept]
  exact Sided.get_ofFn _ side

/-- The currents of each leg track what its limiters have reached. -/
theorem evaluate_legs (side : Side) :
    (evaluate p period snap i s).2.legs.get side =
      trackLeg p i ((evaluate p period snap i s).1.limiters.get side)
        (((evaluate p period snap i s).1.targets snap).get side) (snap.legs.get side) :=
  Sided.get_ofFn _ side

end Evaluate

/-! ## Enabling -/

/-- Enabling leaves the stance leg and the step count alone. -/
theorem wake_stance (c : GaitControl (gait : Gait α)) (snap : Snapshot α) :
    State.stance (c.wake snap) = State.stance c.gait ∧
      State.numSteps (c.wake snap) = State.numSteps c.gait := by
  unfold GaitControl.wake
  split
  · exact ⟨rfl, rfl⟩
  · exact ⟨rfl, rfl⟩

end BoomWalker.CanonWalk
