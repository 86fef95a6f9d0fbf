/-
Telemetry packets: what the controller publishes about itself, as JSON texts.
-/
import BoomWalker.Json.Writer
import BoomWalker.Rig.Form
import BoomWalker.Supervisor.Store
import BoomWalker.Word

namespace BoomWalker

open Json

/-- The state of the controller in one cycle, as published. -/
structure TelemetryPacket where
  time : Float
  numCycles : Nat
  safe : Bool
  /-- The name of the cause of safe mode, empty if there is none. -/
  safeCause : String
  link : Bool
  command : Command Float
  report : Json

namespace TelemetryPacket

/-- The packet of a state, given the form of reports. A missing report is `null`. -/
def ofStore {ρ : Type} (form : ρ → Json) (s : Store Float ρ) : TelemetryPacket where
  time := s.time
  numCycles := s.numCycles
  safe := s.safety.safe
  safeCause := (s.safety.cause.map SafeCause.name).getD ""
  link := s.link
  command := s.command
  report := (s.report.map form).getD .null

def toJson (p : TelemetryPacket) : Json :=
  .obj [("time_s", .real p.time), ("num_cycles", .int p.numCycles), ("safe", .bool p.safe),
    ("safe_cause", .str p.safeCause), ("link_operational", .bool p.link),
    ("command", p.command.toJson), ("report", p.report)]

def empty : TelemetryPacket := ⟨0, 0, false, "", false, .safe, .null⟩

def fields : List (RecordField TelemetryPacket) :=
  [.of "time_s" true readReal fun p x => { p with time := x },
    .of "num_cycles" true (readNatural Word.max64) fun p n => { p with numCycles := n },
    .of "safe" true readBool fun p b => { p with safe := b },
    .of "safe_cause" true readString fun p s => { p with safeCause := s },
    .of "link_operational" true readBool fun p b => { p with link := b },
    .of "command" true Command.read fun p c => { p with command := c },
    .of "report" false (readValue (maxDepth - 1)) fun p v => { p with report := v }]

def read : Reader TelemetryPacket := readRecord false fields empty

/-- The text of a packet. -/
def toText (p : TelemetryPacket) : String := p.toJson.render

/-- A packet from its text. -/
def ofText (s : String) : Except ReadError TelemetryPacket := readAll read s

end TelemetryPacket

end BoomWalker
