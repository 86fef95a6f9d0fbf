/-
External forms of the constant force gait.
-/
import BoomWalker.Gait.ConstForce
import BoomWalker.Gait.Form
import BoomWalker.Rig.Form

namespace BoomWalker.ConstForce

def inputFields : List (InputField (Input Float)) :=
  [⟨"des_motor_torque_a", .real Input.currentA fun i x => { i with currentA := x }⟩,
    ⟨"des_motor_torque_b", .real Input.currentB fun i x => { i with currentB := x }⟩,
    ⟨"des_motor_torque_hip", .real Input.currentHip fun i x => { i with currentHip := x }⟩]

def params? (v : Json) : Option (Params Float) := do
  let [limit] ← v.fields? ["max_current_a"] | none
  return ⟨← limit.asReal?⟩

def form : GaitForm (gait : Gait Float) where
  inputFields := inputFields
  params? := params?
  paramsToJson := fun p => .obj [("max_current_a", .real p.maxCurrent)]
  reportToJson := fun r => .obj [("l_leg", r.leftLeg.toJson)]

end BoomWalker.ConstForce
