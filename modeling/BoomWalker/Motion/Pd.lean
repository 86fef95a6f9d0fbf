/-
Proportional-derivative tracking of a position by a motor current.
-/
import BoomWalker.Scalar

namespace BoomWalker

/-- Gains of a tracker: amperes per radian, and amperes per radian per second. -/
structure Pd (α : Type) where
  p : α
  d : α
deriving Inhabited

namespace Pd

variable {α : Type} [Scalar α]

/-- The current that pulls a measured position and velocity towards their targets. -/
def track (g : Pd α) (targetPos actualPos targetVel actualVel : α) : α :=
  g.p * (targetPos - actualPos) + g.d * (targetVel - actualVel)

/-- Damping alone: pull the velocity towards zero and leave the position free. -/
def damp (g : Pd α) (actualVel : α) : α := g.track 0 0 0 actualVel

end Pd

end BoomWalker
