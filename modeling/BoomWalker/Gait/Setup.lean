/-
Setting up a gait: its parameter file and its archive.
-/
import BoomWalker.Archive.Basic
import BoomWalker.Gait.Catalogue
import BoomWalker.Storage.Params

namespace BoomWalker

/-- Why a gait could not be set up. -/
inductive SetupError where
  | params (e : LoadError)
  | invalid (e : FrameworkError Float)
  | archive (e : ArchiveError)

/-- The name of a kind of error. -/
def SetupError.name : SetupError → String
  | params e => "ParamLoadError/" ++ e.name
  | invalid _ => "InvalidParams"
  | archive e => "ArchiveError/" ++ e.name

def SetupError.message : SetupError → String
  | params e => "Could not load the gait parameters: " ++ e.message
  | invalid e => "Invalid gait parameters: " ++ e.message
  | archive e => "Could not open the gait archive: " ++ e.message

namespace GaitName

/-- The name of a gait's archive file. -/
def archiveFile (n : GaitName) : String := n.gait.name ++ ".csv"

/-- The name of a gait's parameter file. -/
def paramFile (n : GaitName) : String := n.gait.name ++ ".toml"

/-- A controller with checked parameters. -/
def controller (n : GaitName) (p : GaitParams n.gait) : Except SetupError (GaitControl n.gait) :=
  (GaitControl.new n.gait p.framework p.gait).mapError .invalid

/-- A controller with parameters from a file, and an archive, given what goes wrong with its file. -/
def setUp (n : GaitName) (d : ParamDirectory) (file : String) (fault : Option FileFault) :
    Except SetupError (GaitControl n.gait × Archive (Record Float)) := do
  let params ← (d.load file (GaitParams.ofJson? n.form)).mapError .params
  let control ← n.controller params
  let archive ← (Archive.create fault).mapError .archive
  return (control, archive)

end GaitName

/-- The archived record of a gait's last cycle, at the given time in seconds. -/
def GaitControl.record {α : Type} {g : Gait α} (c : GaitControl g) (time : α) : Record α :=
  ("time_s", .real time) :: g.log c.gait

end BoomWalker
