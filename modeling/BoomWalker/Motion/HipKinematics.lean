/-
The boom rotates about a post, so each toe travels on a circle around it. The hip angles place the
toes at desired radii from the post.
-/
import BoomWalker.Motion.LegKinematics

namespace BoomWalker

/-- Boom and hip geometry. -/
structure HipKinematics (α : Type) where
  /-- From the post to the centre of the body, in metres. -/
  boomLength : α
  /-- Signed radial offset of each hip from the centre of the body, in metres. -/
  hipOffset : Sided α
  /-- Hip angle of a leg that hangs straight down, in radians. -/
  hipNeutral : α
deriving Inhabited

/-- Desired radii of the toes, in metres. -/
def standardToeRadius {α : Type} [Scalar α] : Sided α := ⟨2.15, 2.45⟩

namespace HipKinematics

variable {α : Type} [Scalar α]

/-- The geometry of the rig's own boom. -/
def standard : HipKinematics α := ⟨2, ⟨0.1, 0.4⟩, 3 * Scalar.halfPi⟩

/-- Abduction that moves a toe from below the hip to the desired radius. A leg too short to reach
it has none. -/
def abduction (kine : LegKinematics α) (toeRadius hipRadius : α) (leg : LegState α) : α :=
  let pos := kine.motorPosToLegPos leg.a.legAngle leg.b.legAngle
  let lateralLength := pos.2 * Scalar.sin pos.1
  Scalar.asin ((toeRadius - hipRadius) / lateralLength)

/-- The hip angles that place each toe at its radius. The hips are mounted facing each other, so the two
abductions enter with opposite signs. -/
def inverse (h : HipKinematics α) (kine : LegKinematics α) (toe : Sided α)
    (legs : Sided (LegState α)) (position : BodyPosition α) : Sided α :=
  let bodyRadius := h.boomLength * Scalar.cos position.boomAngle
  let left := abduction kine toe.left (bodyRadius + h.hipOffset.left) legs.left
  let right := abduction kine toe.right (bodyRadius + h.hipOffset.right) legs.right
  ⟨h.hipNeutral + left, h.hipNeutral - right⟩

end HipKinematics

end BoomWalker
