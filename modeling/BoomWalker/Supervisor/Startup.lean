/-
Starting the controller, up to the first cycle.

Everything that the controller finds outside is given by an `Environment`. Each step of the startup
may end the run with an error, and the two computations of times may have no result, which crashes
it.
-/
import BoomWalker.Fieldbus.Form
import BoomWalker.Fieldbus.Sim.Master
import BoomWalker.Net.Endpoint
import BoomWalker.Net.Params
import BoomWalker.Storage.Log
import BoomWalker.Storage.Session
import BoomWalker.Supervisor.Loop
import BoomWalker.Supervisor.Params
import BoomWalker.Telemetry.Packet

namespace BoomWalker

/-- What the controller finds outside. -/
structure Environment where
  params : ParamDirectory
  /-- What goes wrong with the directories of the session. -/
  sessionFault : Option FileFault
  /-- What goes wrong with the log file. -/
  logFault : Option FileFault
  /-- What goes wrong with the archive file. -/
  archiveFault : Option FileFault
  /-- What goes wrong when a subscriber connects to an endpoint. -/
  connectFault : String → Option SocketFault
  /-- What goes wrong when a publisher is bound to an endpoint. -/
  bindFault : String → Option SocketFault
  /-- Time while the fieldbus is configured, in nanoseconds. -/
  now : Nat

/-- What is asked of a run. -/
structure RunRequest where
  gait : GaitName
  /-- Is the fieldbus simulated? -/
  sim : Bool
  /-- Number of cycles; no limit if it is not given. -/
  cycles : Option Nat
deriving DecidableEq, Repr

/-- Why a run failed. -/
inductive RunError where
  | session (e : SessionError)
  | log (e : LogError)
  | loopParams (e : LoadError)
  | busParams (e : LoadError)
  | netParams (e : LoadError)
  | noHardware
  | request (e : FieldbusError)
  | configure (e : FieldbusError)
  | gait (n : GaitName) (e : SetupError)
  | operator (f : SocketFault)
  | telemetry (f : SocketFault)
  | start (e : FieldbusError)
  | cycle (e : FieldbusError)

/-- The messages of an error, from the step that failed to the cause. -/
def RunError.chain : RunError → List String
  | session e => ["Failed to create the session", e.message]
  | log e => ["Failed to initialise logging", e.message]
  | loopParams e => ["Could not load exec params", e.message]
  | busParams e => ["Could not load fieldbus params", e.message]
  | netParams e => ["Could not load net params", e.message]
  | noHardware => ["No hardware fieldbus master is available in this build, run with --sim"]
  | request e => ["Failed to request the fieldbus master", e.message]
  | configure e => ["Failed to configure the fieldbus", e.message]
  | gait n e => ["Failed to initialise " ++ n.gait.name, e.message]
  | operator f => ["Failed to initialise GuiClient", f.message]
  | telemetry f => ["Failed to initialise TmServer", f.message]
  | start e => ["Failed to start the fieldbus", e.message]
  | cycle e => ["Fieldbus cycle failed", e.message]

/-- How a run ends. -/
inductive Ending where
  | finished
  | failed (e : RunError)
  /-- A time cannot be computed. -/
  | crashed
  /-- The surroundings ended the run. -/
  | interrupted

/-- What a run leaves behind. -/
structure Outcome (M : Type) where
  ending : Ending
  /-- The fieldbus master, if it was requested. -/
  master : Option M
  /-- The closed archive, if it was created. -/
  archive : Option (Archive (Record Float))
  /-- Telemetry packets, in order. -/
  published : List TelemetryPacket

namespace Outcome

variable {M : Type}

/-- A run that failed before a master was requested. -/
def early (e : RunError) : Outcome M := ⟨.failed e, none, none, []⟩

end Outcome

/-- The parameters of a run. -/
structure RunParams where
  loop : LoopParams
  bus : FieldbusParams Float
  net : NetParams

/-- Open the session and the log, and load the parameters. -/
def RunParams.load (env : Environment) : Except RunError RunParams := do
  (Session.create env.params.isSome env.sessionFault).mapError .session
  (openLog .trace env.logFault).mapError .log
  let loop ← (env.params.load "ctrl_exec.toml" LoopParams.ofJson?).mapError .loopParams
  let bus ← (env.params.load "fieldbus.toml" FieldbusParams.ofJson?).mapError .busParams
  let net ← (env.params.load "net.toml" NetParams.ofJson?).mapError .netParams
  return ⟨loop, bus, net⟩

/-- The endpoint that cannot be used, if any. The operator's comes first. -/
def NetParams.fault? (env : Environment) (p : NetParams) : Option RunError :=
  match env.connectFault p.operator, env.bindFault p.telemetry with
  | some f, _ => some (.operator f)
  | none, some f => some (.telemetry f)
  | none, none => none

/-- A controller that is ready to cycle. -/
structure Started (M : Type) (n : GaitName) where
  loop : ControlLoop M n.gait
  limits : CycleLimits
  archive : Archive (Record Float)

variable {M : Type} [Master M]

/-- Make the loop ready on a connection that was started. -/
def Started.of (n : GaitName) (p : LoopParams) (control : GaitControl n.gait)
    (archive : Archive (Record Float)) (connection : Connection M Float) :
    Except (Outcome M) (Started M n) :=
  match Clock.nanos? p.period with
  | none => .error ⟨.crashed, some connection.link.master, some (archive.fill []), []⟩
  | some period =>
    .ok ⟨⟨.new control p.operatorTimeout p.telemetryRate, connection⟩, ⟨period, p.maxOverruns⟩,
      archive⟩

/-- Set up the gait and the network on a configured connection, and start it. -/
def startConfigured (env : Environment) (n : GaitName) (p : RunParams)
    (connection : Connection M Float) : Except (Outcome M) (Started M n) :=
  match n.setUp env.params n.paramFile env.archiveFault with
  | .error e => .error ⟨.failed (.gait n e), some connection.link.master, none, []⟩
  | .ok (control, archive) =>
    match p.net.fault? env with
    | some e => .error ⟨.failed e, some connection.link.master, some (archive.fill []), []⟩
    | none =>
      match connection.start with
      | (.error e, connection) =>
        .error ⟨.failed (.start e), some connection.link.master, some (archive.fill []), []⟩
      | (.ok (), connection) => Started.of n p.loop control archive connection

/-- Start the controller, given how a master is requested. -/
def RunRequest.start (requestMaster : FieldbusParams Float → Except FieldbusError M)
    (env : Environment) (request : RunRequest) : Except (Outcome M) (Started M request.gait) :=
  match RunParams.load env with
  | .error e => .error (.early e)
  | .ok p =>
    if ¬ request.sim then .error (.early .noHardware)
    else
      match requestMaster p.bus with
      | .error e => .error (.early (.request e))
      | .ok m =>
        match Connection.configure p.bus env.now m with
        | (.error (.bus e), m) => .error ⟨.failed (.configure e), some m, none, []⟩
        | (.error .clockOverflow, m) => .error ⟨.crashed, some m, none, []⟩
        | (.ok connection, _) => startConfigured env request.gait p connection

/-- Request the simulated master, whose frames are a cycle of the fieldbus apart. -/
def FieldbusParams.requestSim (p : FieldbusParams Float) : Except FieldbusError (SimMaster Float) :=
  SimMaster.request p.masterIndex p.sim (Float.ofNat p.cyclePeriod * 1e-9)

end BoomWalker
