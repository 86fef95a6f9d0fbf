/-
The form of geometric and electrical constants in parameter files.
-/
import BoomWalker.Json.Decode
import BoomWalker.Motion.HipKinematics
import BoomWalker.Motion.LegForce

namespace BoomWalker

def LegKinematics.ofJson? (v : Json) : Option (LegKinematics Float) := do
  let [length, rate] ← v.fields? ["seg_length_m", "spring_rate_nm_rad"] | none
  return ⟨← length.asReal?, ← rate.asReal?⟩

def LegKinematics.toJson (k : LegKinematics Float) : Json :=
  .obj [("seg_length_m", .real k.segLength), ("spring_rate_nm_rad", .real k.springRate)]

def Drive.ofJson? (v : Json) : Option (Drive Float) := do
  let [gear, torque] ← v.fields? ["gear_ratio", "torque_constant_nm_a"] | none
  return ⟨← gear.asReal?, ← torque.asReal?⟩

def Drive.toJson (d : Drive Float) : Json :=
  .obj [("gear_ratio", .real d.gearRatio), ("torque_constant_nm_a", .real d.torqueConstant)]

/-- A list of exactly two numbers. -/
def realPair? (v : Json) : Option (Float × Float) := do
  let [x, y] ← v.asList? | none
  return (← x.asReal?, ← y.asReal?)

def HipKinematics.ofJson? (v : Json) : Option (HipKinematics Float) := do
  let [boom, offset, neutral] ← v.fields? ["boom_length_m", "hip_offset_m", "hip_neutral_rad"]
    | none
  let (left, right) ← realPair? offset
  return ⟨← boom.asReal?, ⟨left, right⟩, ← neutral.asReal?⟩

def HipKinematics.toJson (h : HipKinematics Float) : Json :=
  .obj [("boom_length_m", .real h.boomLength),
    ("hip_offset_m", .arr [.real h.hipOffset.left, .real h.hipOffset.right]),
    ("hip_neutral_rad", .real h.hipNeutral)]

/-- One number for each side. -/
def sidedReals? (v : Json) : Option (Sided Float) := do
  let [left, right] ← v.fields? ["left", "right"] | none
  return ⟨← left.asReal?, ← right.asReal?⟩

def sidedRealsToJson (p : Sided Float) : Json :=
  .obj [("left", .real p.left), ("right", .real p.right)]

end BoomWalker
