/-
The external forms of a gait: its parameters in a file, its operator input, and its report in
telemetry.
-/
import BoomWalker.Gait.Control
import BoomWalker.Json.Decode
import BoomWalker.Operator.Input

namespace BoomWalker

/-- How the parts of a gait are written outside the controller. -/
structure GaitForm (g : Gait Float) where
  inputFields : List (InputField g.Input)
  params? : Json → Option g.Params
  paramsToJson : g.Params → Json
  reportToJson : g.Report → Json

namespace GaitForm

variable {g : Gait Float}

def readInput (f : GaitForm g) : Json.Reader g.Input :=
  InputField.readInput f.inputFields g.defaultInput

def inputToJson (f : GaitForm g) (i : g.Input) : Json := InputField.inputToJson f.inputFields i

/-- The report of a controller in telemetry. -/
def statusToJson (f : GaitForm g) (s : GaitStatus g) : Json :=
  .obj [("enabled", .bool s.enabled), ("ramp_factor", .real s.rampFactor),
    ("gait", f.reportToJson s.gait)]

end GaitForm

namespace Framework

def ofJson? (v : Json) : Option (Framework Float) := do
  let [period, ramp] ← v.fields? ["cycle_period_s", "startup_ramp_s"] | none
  return ⟨← period.asReal?, ← ramp.asReal?⟩

def toJson (f : Framework Float) : Json :=
  .obj [("cycle_period_s", .real f.cyclePeriod), ("startup_ramp_s", .real f.startupRamp)]

end Framework

/-- The contents of a gait's parameter file. -/
structure GaitParams (g : Gait Float) where
  framework : Framework Float
  gait : g.Params

def GaitParams.ofJson? {g : Gait Float} (f : GaitForm g) (v : Json) : Option (GaitParams g) := do
  let [framework, gait] ← v.fields? ["framework", "gait"] | none
  return ⟨← Framework.ofJson? framework, ← f.params? gait⟩

end BoomWalker
