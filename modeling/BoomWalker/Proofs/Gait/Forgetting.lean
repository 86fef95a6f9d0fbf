/-
A disabled cycle forgets everything.

Main statement: two controllers of one gait with the same parameters may have run through any
events. Once both process a disabled cycle with the same snapshot, they put out the same in every
later cycle, and their states are the same but for telemetry.
-/
import BoomWalker.Gait.Catalogue
import BoomWalker.Proofs.Gait.CanonWalk.Memory
import BoomWalker.Proofs.Gait.LegHop.Memory
import BoomWalker.Proofs.Gait.SlipWalk.Memory

namespace BoomWalker

/-! ## The gaits with little to remember -/

/-- The constant force depends on the operator alone. -/
def ConstForce.memory {α : Type} [Scalar α] : (ConstForce.gait : Gait α).Memory where
  live := id
  Posture := Unit
  posture _ := ()
  Kept := Unit
  kept _ := ()
  restore s _ := s
  keptUse _ _ := .keeps
  posture_live _ := rfl
  reset_live _ _ _ _ := rfl
  onEnable_live _ _ _ := rfl
  evaluate_live _ _ _ _ _ := rfl
  restore_kept _ := rfl
  onEnable_restore _ _ _ _ := rfl
  evaluate_onEnable _ _ _ _ _ := rfl
  evaluate_keeps _ _ _ _ _ _ _ := rfl
  evaluate_rewrites _ _ _ _ _ _ _ := rfl

/-- The time of the sine wave starts anew when it is enabled. -/
def SinWave.memory {α : Type} [Scalar α] : (SinWave.gait : Gait α).Memory where
  live s := { s with report := ⟨0, 0, 0⟩ }
  Posture := Unit
  posture _ := ()
  Kept := Unit
  kept _ := ()
  restore s _ := s
  keptUse _ _ := .keeps
  posture_live _ := rfl
  reset_live _ _ _ _ := rfl
  onEnable_live _ _ _ := rfl
  evaluate_live _ _ _ _ _ := rfl
  restore_kept _ := rfl
  onEnable_restore _ _ _ _ := rfl
  evaluate_onEnable _ _ _ _ _ := rfl
  evaluate_keeps _ _ _ _ _ _ _ := rfl
  evaluate_rewrites _ _ _ _ _ _ _ := rfl

/-! ## All gaits -/

namespace GaitName

variable (α : Type) [Scalar α]

/-- The gait of a name over any scalars. -/
def gaitOver : GaitName → Gait α
  | slipWalk => SlipWalk.gait
  | canonWalk => CanonWalk.gait
  | legHop => LegHop.gait
  | constForce => ConstForce.gait
  | sinWave => SinWave.gait

theorem gaitOver_float (n : GaitName) : n.gaitOver Float = n.gait := by
  cases n with
  | slipWalk => rfl
  | canonWalk => rfl
  | legHop => rfl
  | constForce => rfl
  | sinWave => rfl

/-- What the gait of a name remembers. -/
def memory : (n : GaitName) → (n.gaitOver α).Memory
  | slipWalk => SlipWalk.memory
  | canonWalk => CanonWalk.memory
  | legHop => LegHop.memory
  | constForce => ConstForce.memory
  | sinWave => SinWave.memory

end GaitName

namespace GaitControl

variable {α : Type} [Scalar α]

/-- After a disabled cycle, nothing of what went before can be seen: neither in the commands and
postures of later cycles, nor in the live part of the state. -/
theorem disabled_forgets (n : GaitName) (c : GaitControl (n.gaitOver α))
    (past past' es : List (Event (n.gaitOver α))) (snap : Snapshot α)
    (gui gui' : (n.gaitOver α).Input) :
    let d := (c.run (past ++ [.process ⟨snap, gui, false⟩])).1
    let d' := (c.run (past' ++ [.process ⟨snap, gui', false⟩])).1
    (d.run es).2.map (n.memory α).shown = (d'.run es).2.map (n.memory α).shown ∧
      (n.memory α).live (d.run es).1.gait = (n.memory α).live (d'.run es).1.gait := by
  intro d d'
  obtain ⟨hframework, hparams⟩ := c.run_fixed past
  obtain ⟨hframework', hparams'⟩ := c.run_fixed past'
  -- From the disabled cycle on the two controllers are alike, and that is kept.
  have halike : Alike (n.memory α) d d' := by
    show Alike (n.memory α) (c.run (past ++ [.process ⟨snap, gui, false⟩])).1
      (c.run (past' ++ [.process ⟨snap, gui', false⟩])).1
    rw [run_concat, run_concat]
    exact alike_process_disabled (hframework.trans hframework'.symm)
      (hparams.trans hparams'.symm) snap gui gui'
  obtain ⟨hlast, hshown⟩ := halike.run es
  exact ⟨hshown, hlast.gait⟩

end GaitControl

end BoomWalker
