/-
The cubic polynomial through two points with given slopes, in Hermite form.

The domain variable need not be time: swing trajectories run over the angle of the stance leg.
-/
import BoomWalker.Scalar

namespace BoomWalker

/-- The ends of the domain, with value and slope at each. -/
structure CubicSpline (α : Type) where
  x0 : α
  x1 : α
  y0 : α
  y1 : α
  dy0 : α
  dy1 : α

namespace CubicSpline

variable {α : Type} [Scalar α]

/-- Value and slope `dy/dx` at `x`. Outside the domain the polynomial is continued. -/
def eval (c : CubicSpline α) (x : α) : α × α :=
  let h := c.x1 - c.x0
  let s := (x - c.x0) / h
  let s2 := s * s
  let s3 := s2 * s
  let h00 := 2 * s3 - 3 * s2 + 1
  let h10 := s3 - 2 * s2 + s
  let h01 := -2 * s3 + 3 * s2
  let h11 := s3 - s2
  let y := h00 * c.y0 + h10 * h * c.dy0 + h01 * c.y1 + h11 * h * c.dy1
  let dh00 := 6 * s2 - 6 * s
  let dh10 := 3 * s2 - 4 * s + 1
  let dh01 := -6 * s2 + 6 * s
  let dh11 := 3 * s2 - 2 * s
  let dy := dh00 * c.y0 / h + dh10 * c.dy0 + dh01 * c.y1 / h + dh11 * c.dy1
  (y, dy)

/-- Value and time derivative at `x`, where the domain variable moves at the rate `dx`. -/
def evalMoving (c : CubicSpline α) (x dx : α) : α × α :=
  ((c.eval x).1, (c.eval x).2 * dx)

end CubicSpline

end BoomWalker
