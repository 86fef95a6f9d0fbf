/-
The command line: a gait to run, and options.

An option is a name after dashes. It takes its value from behind an equals sign or from the next
argument, unless that begins with a dash. After two dashes alone nothing is an option any more. Help
and version are answered as soon as they are met; what is missing, repeated or malformed is found
once the whole line has been read.
-/
import BoomWalker.Gait.Catalogue
import BoomWalker.Storage.Log
import BoomWalker.Supervisor.Startup
import BoomWalker.Text.Digits
import BoomWalker.Word

namespace BoomWalker

/-- A run and how much of it is shown. -/
structure Arguments where
  request : RunRequest
  level : LogLevel
deriving DecidableEq, Repr

/-- What a command line asks for. -/
inductive Invocation where
  | run (a : Arguments)
  | help
  | version
deriving DecidableEq, Repr

/-- What is wrong with a command line. -/
inductive UsageError where
  | unknownArgument (text : String)
  | missingValue (option : String)
  | repeated (option : String)
  | missingGait
  | unknownGait (text : String)
  | badValue (option text : String)
deriving DecidableEq, Repr

def UsageError.message : UsageError → String
  | unknownArgument text => "Unknown argument \"" ++ text ++ "\""
  | missingValue option => "The option --" ++ option ++ " requires a value"
  | repeated option => "The option --" ++ option ++ " was given more than once"
  | missingGait => "The gait to run was not given"
  | unknownGait text => "Unknown gait \"" ++ text ++ "\""
  | badValue option text => "Invalid value \"" ++ text ++ "\" of the option --" ++ option

/-- How an option was used. -/
structure OptionUse where
  count : Nat
  /-- The last value. -/
  value : Option String
deriving DecidableEq, Repr, Inhabited

/-- Was the option used, but never with a value? -/
def OptionUse.isMissing (u : OptionUse) : Bool := 0 < u.count && u.value.isNone

/-- A command line as far as it has been read. -/
structure Scanned where
  gait : Option String
  sim : OptionUse
  cycles : OptionUse
  level : OptionUse
deriving DecidableEq, Repr, Inhabited

/-- Options that take a value. -/
inductive ValueOption where
  | cycles
  | level
deriving DecidableEq, Repr

namespace Scanned

def start : Scanned := ⟨none, ⟨0, none⟩, ⟨0, none⟩, ⟨0, none⟩⟩

/-- Change how an option with a value was used. -/
def update (s : Scanned) (o : ValueOption) (f : OptionUse → OptionUse) : Scanned :=
  match o with
  | .cycles => { s with cycles := f s.cycles }
  | .level => { s with level := f s.level }

/-- Note an option, with its value if that stands behind an equals sign. -/
def note (s : Scanned) (o : ValueOption) (value : Option String) : Scanned :=
  s.update o fun u => ⟨u.count + 1, value.or u.value⟩

/-- Take an argument for the gait, of which there is only one. -/
def positional (s : Scanned) (text : String) : Except UsageError Scanned :=
  if s.gait.isSome then .error (.unknownArgument text) else .ok { s with gait := text }

/-- What reading one argument led to. -/
inductive Step where
  | continue (s : Scanned) (awaiting : Option ValueOption)
  /-- Only the gait may follow. -/
  | plain (s : Scanned)
  | help
  | version

/-- The name of an option, and the value behind an equals sign. -/
def splitOption (text : String) : String × Option String :=
  let (name, rest) := (text.toList.dropWhile (· = '-')).span (· ≠ '=')
  (String.ofList name,
    match rest with
    | [] => none
    | _ :: value => some (String.ofList (value.dropWhile (· = '='))))

/-- Read an argument that begins with two dashes. -/
def longOption (s : Scanned) (text : String) : Except UsageError Step :=
  match splitOption text with
  | ("sim", _) => .ok (.continue { s with sim := ⟨s.sim.count + 1, none⟩ } none)
  | ("cycles", value) =>
    .ok (.continue (s.note .cycles value) (if value.isSome then none else some .cycles))
  | ("log-level", value) =>
    .ok (.continue (s.note .level value) (if value.isSome then none else some .level))
  | ("help", _) => .ok .help
  | ("version", _) => .ok .version
  | _ => .error (.unknownArgument text)

/-- Read an argument, given the option that awaits its value. -/
def argument (s : Scanned) (awaiting : Option ValueOption) (text : String) :
    Except UsageError Step :=
  match text.toList with
  | ['-', '-'] => .ok (.plain s)
  | '-' :: '-' :: _ => s.longOption text
  | '-' :: 'h' :: _ => .ok .help
  | '-' :: 'V' :: _ => .ok .version
  | '-' :: _ :: _ => .error (.unknownArgument text)
  | _ =>
    match awaiting with
    | some o => .ok (.continue (s.update o fun u => { u with value := some text }) none)
    | none => do return .continue (← s.positional text) none

/-- An unsigned number of 64 bits, with or without a plus sign. -/
def number? (text : String) : Option Nat :=
  let digits := match text.toList with
    | '+' :: digits => digits
    | digits => digits
  (Digits.read? digits).filter (· ≤ Word.max64)

/-- The value of an option that may be left out. -/
def valueOf {β : Type} (name : String) (u : OptionUse) (read : String → Option β) :
    Except UsageError (Option β) :=
  match u.value with
  | none => .ok none
  | some text =>
    match read text with
    | none => .error (.badValue name text)
    | some v => if 1 < u.count then .error (.repeated name) else .ok (some v)

/-- What a line that was read to its end asks for. -/
def finish (s : Scanned) : Except UsageError Arguments := do
  let some text := s.gait | .error .missingGait
  if s.cycles.isMissing then .error (.missingValue "cycles")
  if s.level.isMissing then .error (.missingValue "log-level")
  let some gait := GaitName.ofName? text | .error (.unknownGait text)
  if 1 < s.sim.count then .error (.repeated "sim")
  let cycles ← valueOf "cycles" s.cycles number?
  let level ← valueOf "log-level" s.level LogLevel.ofName?
  return ⟨⟨gait, 0 < s.sim.count, cycles⟩, level.getD .info⟩

end Scanned

namespace Invocation

/-- Read arguments from a given point on. -/
def scan (s : Scanned) (awaiting : Option ValueOption) : List String → Except UsageError Invocation
  | [] => return .run (← s.finish)
  | text :: rest => do
    match ← s.argument awaiting text with
    | .continue s awaiting => scan s awaiting rest
    | .plain s => return .run (← (← rest.foldlM Scanned.positional s).finish)
    | .help => return .help
    | .version => return .version

/-- A command line without the name of the program. -/
def ofArguments (args : List String) : Except UsageError Invocation := scan .start none args

end Invocation

end BoomWalker
