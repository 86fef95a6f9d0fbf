/-
Parameters of the control loop.
-/
import BoomWalker.Json.Decode
import BoomWalker.Word

namespace BoomWalker

structure LoopParams where
  /-- Length of a cycle, in seconds. -/
  period : Float
  /-- Overruns in a row that are tolerated. -/
  maxOverruns : Nat
  /-- Cycles without a packet of the operator that are tolerated. -/
  operatorTimeout : Nat
  /-- Telemetry packets per second. -/
  telemetryRate : Float

namespace LoopParams

def standard : LoopParams := ⟨0.001, 50, 500, 20⟩

def ofJson? (v : Json) : Option LoopParams := do
  let [period, overruns, timeout, rate] ← v.fields?
    ["cycle_period_s", "max_consec_overruns", "gui_timeout_cycles", "tm_rate_hz"] | none
  return {
    period := ← period.asReal?
    maxOverruns := ← overruns.asNatural? Word.max64
    operatorTimeout := ← timeout.asNatural? Word.max64
    telemetryRate := ← rate.asReal? }

def toJson (p : LoopParams) : Json :=
  .obj [("cycle_period_s", .real p.period), ("max_consec_overruns", .int p.maxOverruns),
    ("gui_timeout_cycles", .int p.operatorTimeout), ("tm_rate_hz", .real p.telemetryRate)]

end LoopParams

end BoomWalker
