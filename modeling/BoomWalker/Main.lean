/-
The command line program.

The controller runs on the simulated fieldbus. This build has no network: no packet of an operator
arrives, and telemetry is not sent.
-/
import BoomWalker.Arguments
import BoomWalker.Supervisor.Run
import Std.Time

namespace BoomWalker.Main

/-- The fault that an error of the system stands for. -/
def faultOf : IO.Error → FileFault
  | .noFileOrDirectory .. => .notFound
  | e => .other (toString e)

/-- The fault of an action, if it fails. -/
def faultIn (action : IO Unit) : IO (Option FileFault) := do
  match ← action.toBaseIO with
  | .ok () => return none
  | .error e => return some (faultOf e)

/-- The text of a file. -/
def readText (path : String) : IO (Except FileFault String) := do
  match ← (IO.FS.readBinFile path).toBaseIO with
  | .error e => return .error (faultOf e)
  | .ok bytes =>
    match String.fromUTF8? bytes with
    | some text => return .ok text
    | none => return .error .notText

/-- The files of parameters that a run reads. -/
def paramFiles (root : String) (n : GaitName) : IO (String → Except FileFault String) := do
  let names := ["ctrl_exec.toml", "fieldbus.toml", "net.toml", n.paramFile]
  let texts ← names.mapM fun name => do return (name, ← readText (root ++ "/params/" ++ name))
  return fun name => ((texts.find? (·.1 == name)).map (·.2)).getD (.error .notFound)

/-- The directory in which telemetry wants its socket, if it exists. -/
def telemetryDirectory (files : String → Except FileFault String) : IO (List String) := do
  let .ok net := ParamDirectory.load (some files) "net.toml" NetParams.ofJson? | return []
  let .ok endpoint := Endpoint.ofText net.telemetry | return []
  let some directory := Endpoint.directory? endpoint.address | return []
  match ← (IO.FS.realPath directory).toBaseIO with
  | .ok _ => return [directory]
  | .error _ => return []

/-- The session that begins now. -/
def newSession (root : String) : IO Session := do
  let now := Std.Time.DateTime.ofTimestampWithZone (← Std.Time.Timestamp.now) .UTC
  return .within (root ++ "/sessions") "ctrl_exec" (now.format "uuuuMMdd_HHmmss")

/-- The time of day, in nanoseconds. -/
def wallNanos : IO Nat := do
  return (← Std.Time.Timestamp.now).toNanosecondsSinceUnixEpoch.val.toNat

/-- The path of a gait's archive. -/
def archivePath (session : Session) (n : GaitName) : String :=
  session.archives ++ "/" ++ n.archiveFile

/-- What a run finds outside, and its session. -/
def findEnvironment (n : GaitName) : IO (Environment × Option Session) := do
  let some root ← IO.getEnv "RIG_SW_ROOT"
    | return (⟨none, none, none, none, fun _ => none, fun _ => none, 0⟩, none)
  let session ← newSession root
  let sessionFault ← faultIn (IO.FS.createDirAll session.archives)
  let logFault ← faultIn (IO.FS.writeFile session.log "")
  let archiveFault ← faultIn (IO.FS.writeFile (archivePath session n) "")
  let files ← paramFiles root n
  let directories ← telemetryDirectory files
  return (⟨some files, sessionFault, logFault, archiveFault, Endpoint.connectFault?,
    Endpoint.bindFault? directories.contains, ← wallNanos⟩, some session)

/-- Wait for the rest of a cycle. -/
def rest (limits : CycleLimits) (elapsed : Nat) : IO Unit :=
  IO.sleep (UInt32.ofNat ((limits.period - elapsed) / 1000000))

/-- Append a record to the archive file, given its first line if there is one. -/
def append (file : IO.FS.Handle) (first : List Row) (record : Record Float) : IO (List Row) := do
  let (lines, _) := Archive.writeAll first [record]
  (lines.drop first.length).forM fun row => file.putStrLn row.text
  return lines.take 1

/-- Cycle in real time until the limit. -/
partial def cycleOn {n : GaitName} (limits : CycleLimits) (cycles : Option Nat)
    (file : IO.FS.Handle) (epoch : Nat) (loop : ControlLoop (SimMaster Float) n.gait)
    (first : List Row) :
    IO (ControlLoop (SimMaster Float) n.gait × Option FieldbusError) := do
  if loop.atLimit cycles then return (loop, none)
  let begun ← IO.monoNanosNow
  let time := Float.ofNat (begun - epoch) / Float.ofNat Clock.nanosPerSecond
  match loop.work n.packet? ⟨time, ← wallNanos, [], 0⟩ with
  | (loop, .error e) => return (loop, some e)
  | (loop, .ok output) =>
    let first ← output.archived.toList.foldlM (append file) first
    let elapsed := (← IO.monoNanosNow) - begun
    let (loop, _) := loop.settle limits elapsed
    rest limits elapsed
    cycleOn limits cycles file epoch loop first

/-- Show the messages of an error. -/
def showChain (messages : List String) : IO Unit :=
  messages.forM fun m => IO.eprintln ("Error: " ++ m)

/-- Run the controller. A run that ends before its gait is set up leaves no archive. -/
def runRequest (request : RunRequest) : IO UInt32 := do
  let (env, session) ← findEnvironment request.gait
  let path := (session.map (archivePath · request.gait)).getD ""
  match request.start FieldbusParams.requestSim env with
  | .error outcome =>
    if outcome.archive.isNone then let _ ← faultIn (IO.FS.removeFile path)
    match outcome.ending with
    | .failed e => showChain e.chain; return 1
    | _ => return 101
  | .ok started =>
    let file ← IO.FS.Handle.mk path .write
    match ← cycleOn started.limits request.cycles file (← IO.monoNanosNow) started.loop [] with
    | (_, some e) => showChain (RunError.cycle e).chain; return 1
    | (loop, none) =>
      let _ := loop.shutDown
      return 0

def usage : String :=
  "ctrl_exec <gait> [--sim] [--cycles <cycles>] [--log-level <log-level>]"

end BoomWalker.Main

open BoomWalker in
def main (args : List String) : IO UInt32 := do
  match Invocation.ofArguments args with
  | .error e => Main.showChain [e.message]; return 1
  | .ok .help => IO.println Main.usage; return 0
  | .ok .version => IO.println "ctrl_exec 0.1.0"; return 0
  | .ok (.run a) => Main.runRequest a.request
