/-
Parameters of the network.
-/
import BoomWalker.Json.Decode

namespace BoomWalker

structure NetParams where
  /-- Where telemetry is published. -/
  telemetry : String
  /-- Where the operator publishes. -/
  operator : String
deriving DecidableEq, Repr

namespace NetParams

def ofJson? (v : Json) : Option NetParams := do
  let [telemetry, operator] ← v.fields? ["tm_endpoint", "gui_endpoint"] | none
  return ⟨← telemetry.asText?, ← operator.asText?⟩

def toJson (p : NetParams) : Json :=
  .obj [("tm_endpoint", .str p.telemetry), ("gui_endpoint", .str p.operator)]

end NetParams

end BoomWalker
