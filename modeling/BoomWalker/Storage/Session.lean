/-
A session: one execution, with a directory of its own for the log and the archives.
-/
import BoomWalker.Storage.Params

namespace BoomWalker

/-- The paths of a session. -/
structure Session where
  root : String
  archives : String
  log : String
deriving DecidableEq, Repr

/-- Why a session could not be created. -/
inductive SessionError where
  | rootNotSet
  | directory (f : FileFault)
deriving DecidableEq, Repr

/-- The name of a kind of error. -/
def SessionError.name : SessionError → String
  | rootNotSet => "SwRootNotSet"
  | directory _ => "CannotCreateDir"

def SessionError.message : SessionError → String
  | rootNotSet => rootNotSetMessage
  | directory f => "Cannot create the session directory: " ++ f.message

namespace Session

/-- The session of an executable that started at the given time, within a directory. -/
def within (directory executable timestamp : String) : Session :=
  let root := directory ++ "/" ++ executable ++ "_" ++ timestamp
  ⟨root, root ++ "/arch", root ++ "/" ++ executable ++ ".log"⟩

/-- Create a session, given whether the software root is set and what goes wrong with the session's
directories. -/
def create (rootSet : Bool) (fault : Option FileFault) : Except SessionError Unit :=
  if rootSet then
    match fault with
    | some f => .error (.directory f)
    | none => .ok ()
  else .error .rootNotSet

end Session

end BoomWalker
