/-
External forms of the hopping gait.
-/
import BoomWalker.Gait.Form
import BoomWalker.Gait.LegHop
import BoomWalker.Motion.Form

namespace BoomWalker.LegHop

def inputFields : List (InputField (Input Float)) :=
  [⟨"slip_leg", .real Input.slipLeg fun i x => { i with slipLeg := x }⟩,
    ⟨"slip_height", .real Input.slipHeight fun i x => { i with slipHeight := x }⟩,
    ⟨"slip_spring", .real Input.slipSpring fun i x => { i with slipSpring := x }⟩,
    ⟨"slip_mass", .real Input.slipMass fun i x => { i with slipMass := x }⟩,
    ⟨"robot_spring", .real Input.robotSpring fun i x => { i with robotSpring := x }⟩,
    ⟨"fy", .real Input.fy fun i x => { i with fy := x }⟩,
    ⟨"fz", .real Input.fz fun i x => { i with fz := x }⟩,
    ⟨"constant_force", .flag Input.constantForce fun i b => { i with constantForce := b }⟩,
    ⟨"slip_force", .flag Input.slipForce fun i b => { i with slipForce := b }⟩,
    ⟨"stance_leg_p_gain", .real Input.stanceKp fun i x => { i with stanceKp := x }⟩,
    ⟨"stance_leg_d_gain", .real Input.stanceKd fun i x => { i with stanceKd := x }⟩,
    ⟨"flight_leg_p_gain", .real Input.flightKp fun i x => { i with flightKp := x }⟩,
    ⟨"flight_leg_d_gain", .real Input.flightKd fun i x => { i with flightKd := x }⟩,
    ⟨"flight_hip_p_gain", .real Input.hipKp fun i x => { i with hipKp := x }⟩,
    ⟨"flight_hip_d_gain", .real Input.hipKd fun i x => { i with hipKd := x }⟩,
    ⟨"constant_hip", .flag Input.constantHip fun i b => { i with constantHip := b }⟩,
    ⟨"advanced_hip", .flag Input.advancedHip fun i b => { i with advancedHip := b }⟩,
    ⟨"hip_angle", .real Input.hipAngle fun i x => { i with hipAngle := x }⟩,
    ⟨"left_hip_target", .real Input.leftHipTarget fun i x => { i with leftHipTarget := x }⟩,
    ⟨"right_hip_target", .real Input.rightHipTarget fun i x => { i with rightHipTarget := x }⟩,
    ⟨"debug1", .flag Input.debug1 fun i b => { i with debug1 := b }⟩,
    ⟨"debug2", .flag Input.debug2 fun i b => { i with debug2 := b }⟩,
    ⟨"debug3", .flag Input.debug3 fun i b => { i with debug3 := b }⟩,
    ⟨"debug4", .flag Input.debug4 fun i b => { i with debug4 := b }⟩]

def params? (v : Json) : Option (Params Float) := do
  let [leg, step, ratio] ← v.fields? ["leg", "slip_dt_s", "mirror_length_ratio"] | none
  return ⟨← LegKinematics.ofJson? leg, ← step.asReal?, ← ratio.asReal?⟩

def paramsToJson (p : Params Float) : Json :=
  .obj [("leg", p.leg.toJson), ("slip_dt_s", .real p.slipStep),
    ("mirror_length_ratio", .real p.lengthRatio)]

def reportToJson (r : Report Float) : Json :=
  .obj [("phase", .str r.phase.name), ("fy", .real r.fy), ("fz", .real r.fz),
    ("slip_r", .real r.slipR), ("num_touchdowns", .int r.numTouchdowns)]

def form : GaitForm (gait : Gait Float) where
  inputFields := inputFields
  params? := params?
  paramsToJson := paramsToJson
  reportToJson := reportToJson

end BoomWalker.LegHop
