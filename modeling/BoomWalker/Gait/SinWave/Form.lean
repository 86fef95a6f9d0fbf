/-
External forms of the sine wave gait.
-/
import BoomWalker.Gait.Form
import BoomWalker.Gait.SinWave
import BoomWalker.Motion.Form

namespace BoomWalker.SinWave

def inputFields : List (InputField (Input Float)) :=
  [⟨"leg_ang_amp", .real Input.angleAmplitude fun i x => { i with angleAmplitude := x }⟩,
    ⟨"leg_ang_frq", .real Input.angleFrequency fun i x => { i with angleFrequency := x }⟩,
    ⟨"leg_len_amp", .real Input.lengthAmplitude fun i x => { i with lengthAmplitude := x }⟩,
    ⟨"leg_len_frq", .real Input.lengthFrequency fun i x => { i with lengthFrequency := x }⟩,
    ⟨"leg_pos_kp", .real Input.legKp fun i x => { i with legKp := x }⟩,
    ⟨"leg_pos_kd", .real Input.legKd fun i x => { i with legKd := x }⟩,
    ⟨"hip_pos_kp", .real Input.hipKp fun i x => { i with hipKp := x }⟩,
    ⟨"hip_pos_kd", .real Input.hipKd fun i x => { i with hipKd := x }⟩]

def params? (v : Json) : Option (Params Float) := do
  let [leg, angle, length, hip] ←
    v.fields? ["leg", "centre_angle_rad", "centre_length_m", "hip_target_rad"] | none
  return ⟨← LegKinematics.ofJson? leg, ← angle.asReal?, ← length.asReal?, ← hip.asReal?⟩

def paramsToJson (p : Params Float) : Json :=
  .obj [("leg", p.leg.toJson), ("centre_angle_rad", .real p.centreAngle),
    ("centre_length_m", .real p.centreLength), ("hip_target_rad", .real p.hipTarget)]

def reportToJson (r : Report Float) : Json :=
  .obj [("elapsed_s", .real r.elapsed), ("leg_angle", .real r.legAngle),
    ("leg_length", .real r.legLength)]

def form : GaitForm (gait : Gait Float) where
  inputFields := inputFields
  params? := params?
  paramsToJson := paramsToJson
  reportToJson := reportToJson

end BoomWalker.SinWave
