/-
A run of the controller from its start to its end.
-/
import BoomWalker.Supervisor.Startup

namespace BoomWalker

variable {M : Type} [Master M]

/-- Cycle until the limit, through the given moments, and leave the rig at rest. -/
def Started.run {n : GaitName} (s : Started M n) (cycles : Option Nat)
    (moments : List (Moment Float)) : Outcome M :=
  let (loop, ending, outputs) := s.loop.run s.limits n.packet? cycles moments
  let archive := s.archive.fill (outputs.filterMap (·.archived))
  let published := outputs.filterMap fun o =>
    o.published.map (TelemetryPacket.ofStore n.form.statusToJson)
  match ending with
  | .limit => ⟨.finished, some loop.shutDown.master, some archive, published⟩
  | .busFailed e =>
    ⟨.failed (.cycle e), some loop.connection.link.master, some archive, published⟩
  | .interrupted => ⟨.interrupted, some loop.connection.link.master, some archive, published⟩

/-- Run the controller, given how a master is requested. -/
def RunRequest.run (requestMaster : FieldbusParams Float → Except FieldbusError M)
    (env : Environment) (moments : List (Moment Float)) (request : RunRequest) : Outcome M :=
  match request.start requestMaster env with
  | .error outcome => outcome
  | .ok started => started.run request.cycles moments

end BoomWalker
