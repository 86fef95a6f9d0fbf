/-
The memory of canonical walking.

The limiters and the stance leg are handed from one cycle to the next. Enabling seeds the limiters
and keeps the stance leg. Standing leaves it as it is, stopping goes back to the left leg, and
walking reads it.
-/
import BoomWalker.Gait.CanonWalk.Cycle
import BoomWalker.Proofs.Gait.Memory

namespace BoomWalker.CanonWalk

variable {α : Type}

/-- Standing leaves the stance leg, walking may exchange it, and stopping goes back to the left. -/
def Mode.keptUse : Mode → KeptUse
  | standing => .keeps
  | walking => .reads
  | stopping => .rewrites

theorem Mode.eq_standing {mode : Mode} (h : mode.keptUse = .keeps) : mode = .standing := by
  cases mode with
  | standing => rfl
  | walking => cases h
  | stopping => cases h

theorem Mode.eq_stopping {mode : Mode} (h : mode.keptUse = .rewrites) : mode = .stopping := by
  cases mode with
  | standing => cases h
  | walking => cases h
  | stopping => rfl

variable [Scalar α]

/-- The state without the phase variable, the outputs and the step count of the last cycle. -/
def State.live (s : State α) : State α :=
  { s with y := ⟨0, 0, 0, 0⟩, tau := 0, dtau := 0, numSteps := 0 }

/-- The stance leg is kept when walking is enabled. -/
def memory : (gait : Gait α).Memory where
  live := State.live
  Posture := Mode × Side
  posture r := (r.mode, r.stance)
  Kept := Side
  kept := State.stance
  restore s stance := { s with stance }
  keptUse _ i := (Mode.ofSelector i.mainController).keptUse
  posture_live _ := rfl
  reset_live _ _ _ _ := rfl
  onEnable_live _ _ _ := rfl
  evaluate_live p period snap i s := by
    cases hmode : Mode.ofSelector i.mainController with
    | standing => simp only [gait, evaluate, State.advance, hmode, Prod.map]; rfl
    | walking => simp only [gait, evaluate, State.advance, hmode, Prod.map]; rfl
    | stopping => simp only [gait, evaluate, State.advance, hmode, Prod.map]; rfl
  restore_kept _ := rfl
  onEnable_restore _ _ _ _ := rfl
  evaluate_onEnable p period snap i s := by
    cases hmode : Mode.ofSelector i.mainController with
    | standing => simp only [gait, evaluate, State.advance, hmode, Prod.map]; rfl
    | walking => simp only [gait, evaluate, State.advance, hmode, Prod.map]; rfl
    | stopping => simp only [gait, evaluate, State.advance, hmode, Prod.map]; rfl
  evaluate_keeps p period snap i s stance huse := by
    have hstanding := Mode.eq_standing huse
    simp only [gait, evaluate, State.advance, hstanding, Prod.map]
    rfl
  evaluate_rewrites p period snap i s stance huse := by
    have hstopping := Mode.eq_stopping huse
    simp only [gait, evaluate, State.advance, hstopping, Prod.map]

end BoomWalker.CanonWalk
