/-
Toe forces in the plane of a leg: what the spring deflections show, and the motor currents that
bring a desired force about. The vertical force is negative when the leg pushes on the ground.
-/
import BoomWalker.Motion.LegKinematics

namespace BoomWalker

/-- Planar toe force and its time derivative. -/
structure ToeForce (α : Type) where
  fx : α
  dfx : α
  fz : α
  dfz : α
deriving Inhabited

/-- Constants that turn a torque into a motor current. -/
structure Drive (α : Type) where
  gearRatio : α
  /-- Newton metres per ampere. -/
  torqueConstant : α
deriving Inhabited

/-- The drives of the rig's own legs. -/
def Drive.standard {α : Type} [Scalar α] : Drive α := ⟨50, 0.121⟩

/-- A two by two matrix, row by row. -/
structure Mat2 (α : Type) where
  a11 : α
  a12 : α
  a21 : α
  a22 : α

namespace Mat2

variable {α : Type}

def transpose (m : Mat2 α) : Mat2 α := ⟨m.a11, m.a21, m.a12, m.a22⟩

/-- Matrix times column vector. -/
def apply [Scalar α] (m : Mat2 α) (v : α × α) : α × α :=
  (m.a11 * v.1 + m.a12 * v.2, m.a21 * v.1 + m.a22 * v.2)

/-- Divide every entry. -/
def divBy [Scalar α] (m : Mat2 α) (d : α) : Mat2 α := ⟨m.a11 / d, m.a12 / d, m.a21 / d, m.a22 / d⟩

end Mat2

/-- Force tracking for one leg. -/
structure LegForce (α : Type) where
  kine : LegKinematics α
  drive : Drive α
  /-- Gain on the deflection error, amperes per radian. -/
  kp : α
  /-- Gain on the deflection rate error, amperes per radian per second. -/
  kd : α

namespace LegForce

variable {α : Type} [Scalar α]

/-- Derivative of the toe position in the segment angles. -/
def jacobian (f : LegForce α) (leg : LegState α) : Mat2 α :=
  let l := f.kine.segLength
  let a := leg.a.legAngle
  let b := leg.b.legAngle
  ⟨-l * Scalar.sin a, -l * Scalar.sin b, l * Scalar.cos a, l * Scalar.cos b⟩

/-- Inverse of the transposed Jacobian in closed form, singular for parallel segments. -/
def jacobianTransposeInverse (f : LegForce α) (leg : LegState α) : Mat2 α :=
  let l := f.kine.segLength
  let a := leg.a.legAngle
  let b := leg.b.legAngle
  let det := l * l * Scalar.sin (b - a)
  Mat2.divBy ⟨l * Scalar.cos b, -l * Scalar.cos a, l * Scalar.sin b, -l * Scalar.sin a⟩ det

/-- The toe force that the measured spring deflections show, and its rate. -/
def compute (f : LegForce α) (leg : LegState α) : ToeForce α :=
  let inv := f.jacobianTransposeInverse leg
  let ks := f.kine.springRate
  let force := inv.apply
    (ks * (leg.a.motorAngle - leg.a.legAngle), ks * (leg.b.motorAngle - leg.b.legAngle))
  let rate := inv.apply
    (ks * (leg.a.motorVelocity - leg.a.legVelocity), ks * (leg.b.motorVelocity - leg.b.legVelocity))
  ⟨force.1, rate.1, -force.2, -rate.2⟩

/-- The current of one motor: the spring torque is fed forward, and the deflection error is closed
with the gains. -/
def current (f : LegForce α) (tau dtau : α) (half : HalfState α) : α :=
  let ampsPerNm := 1 / (f.drive.gearRatio * f.drive.torqueConstant)
  let ks := f.kine.springRate
  let deflection := half.motorAngle - half.legAngle
  let deflectionRate := half.motorVelocity - half.legVelocity
  tau * ampsPerNm + f.kp * (tau / ks - deflection) + f.kd * (dtau / ks - deflectionRate)

/-- The currents of motors A and B that track a toe force. -/
def control (f : LegForce α) (force : ToeForce α) (leg : LegState α) : α × α :=
  let jt := (f.jacobian leg).transpose
  let tau := jt.apply (force.fx, -force.fz)
  let dtau := jt.apply (force.dfx, -force.dfz)
  (f.current tau.1 dtau.1 leg.a, f.current tau.2 dtau.2 leg.b)

end LegForce

end BoomWalker
