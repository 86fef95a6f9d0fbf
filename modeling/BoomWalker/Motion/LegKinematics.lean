/-
The leg is a parallel mechanism of two equal segments. Its polar coordinates are the leg angle `q`,
the mean of the two segment angles, and the leg length `r` from hip to toe.
-/
import BoomWalker.Rig.State

namespace BoomWalker

/-- Geometry and spring constant of a leg. -/
structure LegKinematics (α : Type) where
  /-- Length of each of the two segments, in metres. -/
  segLength : α
  /-- Rotational stiffness of each series spring, in newton metres per radian. -/
  springRate : α
deriving Inhabited

/-- Polar leg coordinates and their rates. -/
structure LegPolar (α : Type) where
  q : α
  r : α
  dq : α
  dr : α
deriving Inhabited

namespace LegKinematics

variable {α : Type} [Scalar α]

/-- The geometry of the rig's own legs. -/
def standard : LegKinematics α := ⟨0.5, 1600⟩

/-- Segment angles to leg angle and length. -/
def motorPosToLegPos (k : LegKinematics α) (a b : α) : α × α :=
  ((a + b) / 2, 2 * k.segLength * Scalar.cos ((b - a) / 2))

/-- Leg angle and length to segment angles. A length out of reach has none. -/
def legPosToMotorPos (k : LegKinematics α) (q r : α) : α × α :=
  let half := Scalar.acos (r / (2 * k.segLength))
  (q - half, q + half)

/-- Segment angles and rates to the rates of leg angle and length. -/
def motorVelToLegVel (k : LegKinematics α) (a b da db : α) : α × α :=
  ((da + db) / 2, -k.segLength * Scalar.sin ((b - a) / 2) * (db - da))

/-- Leg rates at length `r` to segment rates, singular for the fully extended leg. -/
def legVelToMotorVel (k : LegKinematics α) (r dq dr : α) : α × α :=
  let n := r / (2 * k.segLength)
  let spread := dr / (2 * k.segLength * Scalar.sqrt (1 - n * n))
  (dq + spread, dq - spread)

/-- Polar coordinates of a pair of segment angles and their rates. -/
def polar (k : LegKinematics α) (a b da db : α) : LegPolar α :=
  let pos := k.motorPosToLegPos a b
  let vel := k.motorVelToLegVel a b da db
  ⟨pos.1, pos.2, vel.1, vel.2⟩

/-- Polar coordinates behind the springs, where the toe is. -/
def legSidePolar (k : LegKinematics α) (leg : LegState α) : LegPolar α :=
  k.polar leg.a.legAngle leg.b.legAngle leg.a.legVelocity leg.b.legVelocity

/-- Polar coordinates before the springs, the pose in which they are at rest. -/
def motorSidePolar (k : LegKinematics α) (leg : LegState α) : LegPolar α :=
  k.polar leg.a.motorAngle leg.b.motorAngle leg.a.motorVelocity leg.b.motorVelocity

/-- Distance from the rest length below which the stiffness is taken at its limit. -/
def singularBand : α := 1e-6

/-- Step of the finite difference of the stiffness. -/
def diffStep : α := 1e-4

/-- The stiffness of the radial spring that pushes like the two rotational ones: `F / (r0 - r)` for
the radial force `F` at length `r` and rest length `r0`, and its limit near `r = r0`. -/
def radialStiffness (k : LegKinematics α) (r r0 : α) : α :=
  let l := k.segLength
  let ks := k.springRate
  if Scalar.abs (r - r0) < singularBand then
    let n0 := r0 / (2 * l)
    ks / (2 * l * l * (1 - n0 * n0))
  else
    let phi := Scalar.acos (r / (2 * l))
    let phi0 := Scalar.acos (r0 / (2 * l))
    let force := ks * (phi - phi0) / (l * Scalar.sin phi)
    force / (r0 - r)

/-- The radial stiffness and its time derivative for a leg whose length moves at the rate `dr`. -/
def legStiffness (k : LegKinematics α) (r dr r0 : α) : α × α :=
  let dkdr := (k.radialStiffness (r + diffStep) r0 - k.radialStiffness (r - diffStep) r0) /
    (2 * diffStep)
  (k.radialStiffness r r0, dkdr * dr)

end LegKinematics

end BoomWalker
