/-
External forms of SLIP walking.
-/
import BoomWalker.Gait.Form
import BoomWalker.Gait.SlipWalk.Cycle
import BoomWalker.Motion.Form

namespace BoomWalker.SlipWalk

def inputFields : List (InputField (Input Float)) :=
  [⟨"main_controller", .byte Input.mainController fun i n => { i with mainController := n }⟩,
    ⟨"flight_to", .flag Input.manualTakeoff fun i b => { i with manualTakeoff := b }⟩,
    ⟨"flight_td", .flag Input.manualTouchdown fun i b => { i with manualTouchdown := b }⟩,
    ⟨"force_threshold_td", .real Input.touchdownForce fun i x => { i with touchdownForce := x }⟩,
    ⟨"force_threshold_to", .real Input.takeoffForce fun i x => { i with takeoffForce := x }⟩,
    ⟨"position_threshold_td",
      .real Input.touchdownHeight fun i x => { i with touchdownHeight := x }⟩,
    ⟨"slip_leg", .real Input.slipLeg fun i x => { i with slipLeg := x }⟩,
    ⟨"atrias_spring", .real Input.robotSpring fun i x => { i with robotSpring := x }⟩,
    ⟨"swing_leg_retraction",
      .real Input.swingRetraction fun i x => { i with swingRetraction := x }⟩,
    ⟨"stance_leg_target", .real Input.stanceTarget fun i x => { i with stanceTarget := x }⟩,
    ⟨"flight_leg_target", .real Input.flightTarget fun i x => { i with flightTarget := x }⟩,
    ⟨"leg_pos_kp", .real Input.legKp fun i x => { i with legKp := x }⟩,
    ⟨"leg_pos_kd", .real Input.legKd fun i x => { i with legKd := x }⟩,
    ⟨"hip_pos_kp", .real Input.hipKp fun i x => { i with hipKp := x }⟩,
    ⟨"hip_pos_kd", .real Input.hipKd fun i x => { i with hipKd := x }⟩,
    ⟨"leg_for_kp", .real Input.forceKp fun i x => { i with forceKp := x }⟩,
    ⟨"leg_for_kd", .real Input.forceKd fun i x => { i with forceKd := x }⟩,
    ⟨"debug", .flag Input.debug fun i b => { i with debug := b }⟩]

def params? (v : Json) : Option (Params Float) := do
  let [leg, drive, hip, toe, legRate, hipRate, springRate, endVelocity, bias] ←
    v.fields? ["leg", "drive", "hip", "toe_position", "leg_rate_limit_rads",
      "hip_rate_limit_rads", "spring_rate_limit_ms", "swing_end_velocity", "debug_current_bias_a"]
    | none
  return {
    leg := ← LegKinematics.ofJson? leg
    drive := ← Drive.ofJson? drive
    hip := ← HipKinematics.ofJson? hip
    toeRadius := ← sidedReals? toe
    legRateLimit := ← legRate.asReal?
    hipRateLimit := ← hipRate.asReal?
    springRateLimit := ← springRate.asReal?
    swingEndVelocity := ← endVelocity.asReal?
    debugBias := ← bias.asReal? }

def paramsToJson (p : Params Float) : Json :=
  .obj [("leg", p.leg.toJson), ("drive", p.drive.toJson), ("hip", p.hip.toJson),
    ("toe_position", sidedRealsToJson p.toeRadius), ("leg_rate_limit_rads", .real p.legRateLimit),
    ("hip_rate_limit_rads", .real p.hipRateLimit),
    ("spring_rate_limit_ms", .real p.springRateLimit),
    ("swing_end_velocity", .real p.swingEndVelocity), ("debug_current_bias_a", .real p.debugBias)]

def exitToJson (e : ExitConditions Float) : Json :=
  .obj (e.fields.map fun f => (f.1, .real f.2))

def reportToJson (r : Report Float) : Json :=
  .obj [("mode", .str r.mode.name), ("phase", .str r.phase.name),
    ("num_transitions", .int r.numTransitions), ("num_ignored_td", .int r.numIgnored),
    ("stance_fz", .real r.stanceFz), ("flight_fz", .real r.flightFz), ("exit", exitToJson r.exit)]

def form : GaitForm (gait : Gait Float) where
  inputFields := inputFields
  params? := params?
  paramsToJson := paramsToJson
  reportToJson := reportToJson

end BoomWalker.SlipWalk
