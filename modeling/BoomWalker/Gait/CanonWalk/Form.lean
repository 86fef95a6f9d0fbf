/-
External forms of canonical walking.
-/
import BoomWalker.Gait.CanonWalk.Cycle
import BoomWalker.Gait.Form
import BoomWalker.Motion.Form

namespace BoomWalker.CanonWalk

def inputFields : List (InputField (Input Float)) :=
  [⟨"main_controller", .byte Input.mainController fun i n => { i with mainController := n }⟩,
    ⟨"leg_pos_kp", .real Input.legKp fun i x => { i with legKp := x }⟩,
    ⟨"leg_pos_kd", .real Input.legKd fun i x => { i with legKd := x }⟩,
    ⟨"hip_pos_kp", .real Input.hipKp fun i x => { i with hipKp := x }⟩,
    ⟨"hip_pos_kd", .real Input.hipKd fun i x => { i with hipKd := x }⟩]

def params? (v : Json) : Option (Params Float) := do
  let [rate, hip, limits] ←
    v.fields? ["motor_rate_limit_rads", "hip_target_rad", "tau_limits"] | none
  let (tauMin, tauMax) ← realPair? limits
  return ⟨← rate.asReal?, ← hip.asReal?, tauMin, tauMax⟩

def paramsToJson (p : Params Float) : Json :=
  .obj [("motor_rate_limit_rads", .real p.motorRateLimit), ("hip_target_rad", .real p.hipTarget),
    ("tau_limits", .arr [.real p.tauMin, .real p.tauMax])]

def reportToJson (r : Report Float) : Json :=
  .obj [("mode", .str r.mode.name), ("stance_leg", .str r.stance.name), ("tau", .real r.tau),
    ("dtau", .real r.dtau), ("num_steps", .int r.numSteps)]

def form : GaitForm (gait : Gait Float) where
  inputFields := inputFields
  params? := params?
  paramsToJson := paramsToJson
  reportToJson := reportToJson

end BoomWalker.CanonWalk
