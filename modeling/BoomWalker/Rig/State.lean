/-
What the rig measures in one cycle.

Motor A drives the front segment of a leg and motor B the rear one. Each acts through a series
spring: motor angles are before the spring and leg angles behind it. Angles are in radians,
velocities in radians per second, heights in metres.
-/
import BoomWalker.Scalar
import BoomWalker.Rig.Side

namespace BoomWalker

/-- One motor of a leg and the segment behind its spring. -/
structure HalfState (α : Type) where
  motorAngle : α
  motorVelocity : α
  legAngle : α
  legVelocity : α
deriving Inhabited

/-- The lateral hip joint. -/
structure HipState (α : Type) where
  angle : α
  velocity : α
deriving Inhabited

/-- The measured state of one leg. -/
structure LegState (α : Type) where
  a : HalfState α
  b : HalfState α
  hip : HipState α
deriving Inhabited

/-- The pose of the torso and of the boom that carries it. -/
structure BodyPosition (α : Type) where
  bodyPitch : α
  bodyPitchVelocity : α
  boomAngle : α
  height : α
deriving Inhabited

/-- The full measured state of the rig in one cycle. -/
structure Snapshot (α : Type) where
  legs : Sided (LegState α)
  position : BodyPosition α
deriving Inhabited

variable {α : Type}

/-- The snapshot with the legs exchanged. -/
def Snapshot.swapLegs (s : Snapshot α) : Snapshot α := { s with legs := s.legs.swap }

@[simp] theorem Snapshot.get_swapLegs (snap : Snapshot α) (side : Side) :
    snap.swapLegs.legs.get side.opposite = snap.legs.get side := by
  show snap.legs.swap.get side.opposite = snap.legs.get side
  rw [Sided.get_swap, Side.opposite_opposite]

def HalfState.zero [Scalar α] : HalfState α := ⟨0, 0, 0, 0⟩

def LegState.zero [Scalar α] : LegState α := ⟨.zero, .zero, ⟨0, 0⟩⟩

def BodyPosition.zero [Scalar α] : BodyPosition α := ⟨0, 0, 0, 0⟩

/-- The snapshot held before anything was measured. -/
def Snapshot.zero [Scalar α] : Snapshot α := ⟨.both .zero, .zero⟩

/-- The ten measurements of a leg in the order in which they are listed and transmitted. -/
def LegState.toList (l : LegState α) : List α :=
  [l.a.motorAngle, l.a.motorVelocity, l.a.legAngle, l.a.legVelocity,
    l.b.motorAngle, l.b.motorVelocity, l.b.legAngle, l.b.legVelocity, l.hip.angle, l.hip.velocity]

/-- Read ten measurements in the order of `LegState.toList`. -/
def LegState.ofList? : List α → Option (LegState α)
  | [ma, mav, la, lav, mb, mbv, lb, lbv, h, hv] =>
    some ⟨⟨ma, mav, la, lav⟩, ⟨mb, mbv, lb, lbv⟩, ⟨h, hv⟩⟩
  | _ => none

/-- The four measurements of the body in the order in which they are listed and transmitted. -/
def BodyPosition.toList (p : BodyPosition α) : List α :=
  [p.bodyPitch, p.bodyPitchVelocity, p.boomAngle, p.height]

/-- Read four measurements in the order of `BodyPosition.toList`. -/
def BodyPosition.ofList? : List α → Option (BodyPosition α)
  | [bp, bpv, ba, z] => some ⟨bp, bpv, ba, z⟩
  | _ => none

end BoomWalker
