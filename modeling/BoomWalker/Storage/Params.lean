/-
Loading parameters from files.
-/
import BoomWalker.Storage.Fault
import BoomWalker.Toml.Reader

namespace BoomWalker

/-- The texts of the parameter files by name. There are none if the software root is not set. -/
abbrev ParamDirectory := Option (String → Except FileFault String)

/-- Why parameters could not be loaded. -/
inductive LoadError where
  | rootNotSet
  | file (f : FileFault)
  /-- The text is no TOML, or does not hold the parameters. -/
  | malformed
deriving DecidableEq, Repr

/-- The text for a software root that is not set. -/
def rootNotSetMessage : String :=
  "The software root environment variable (RIG_SW_ROOT) is not set"

/-- The name of a kind of error. -/
def LoadError.name : LoadError → String
  | rootNotSet => "SwRootNotSet"
  | file _ => "FileLoadError"
  | malformed => "DeserialiseError"

def LoadError.message : LoadError → String
  | rootNotSet => rootNotSetMessage
  | file f => "Cannot load the parmeter file: " ++ f.message
  | malformed => "Cannot read the parameter file: it does not hold the expected parameters"

/-- Parameters from a text, given their form. -/
def readParams {β : Type} (form : Json → Option β) (text : String) : Except LoadError β :=
  match (Toml.parse text).bind form with
  | some p => .ok p
  | none => .error .malformed

/-- Load parameters from a file, given their form. -/
def ParamDirectory.load {β : Type} (d : ParamDirectory) (name : String)
    (form : Json → Option β) : Except LoadError β :=
  match d with
  | none => .error .rootNotSet
  | some files =>
    match files name with
    | .error f => .error (.file f)
    | .ok text => readParams form text

end BoomWalker
