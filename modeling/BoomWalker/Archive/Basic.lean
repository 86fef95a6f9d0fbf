/-
Archives: files of records that are written in the background.

A record is queued, and a writer takes records off the queue and appends their rows to the file. The
names of the columns come first. All rows have the width of the first line; a record of another
width stops the writer. Closing waits until the queue has been written.
-/
import BoomWalker.Archive.Row
import BoomWalker.Storage.Fault

namespace BoomWalker

/-- What can go wrong with an archive. -/
inductive ArchiveError where
  | create (f : FileFault)
  /-- A record does not fit the file. -/
  | write
  /-- Records are not taken any more. -/
  | stopped
deriving DecidableEq, Repr

/-- The name of a kind of error. -/
def ArchiveError.name : ArchiveError → String
  | create _ => "CreateError"
  | write => "WriteError"
  | stopped => "WriterStopped"

def ArchiveError.message : ArchiveError → String
  | create f => "Could not create the archive file: " ++ f.message
  | write => "Could not write a record to the archive: the number of its fields differs"
  | stopped => "The archive writer thread has stopped"

/-- An archive with its writer and its file. -/
structure Archive (ρ : Type) where
  /-- Records that wait for the writer. -/
  queue : List ρ
  /-- Lines of the file. -/
  file : List Row
  /-- Has the archive not been closed yet? -/
  accepting : Bool
  /-- Has the writer stopped at a record? -/
  failed : Bool
  /-- Has the writer's outcome been handed out? -/
  collected : Bool

namespace Archive

variable {ρ : Type}

/-- An archive with an empty file. -/
def empty : Archive ρ := ⟨[], [], true, false, false⟩

/-- Create an archive, given what goes wrong with its file. -/
def create (fault : Option FileFault) : Except ArchiveError (Archive ρ) :=
  match fault with
  | some f => .error (.create f)
  | none => .ok empty

/-- Queue a record. -/
def serialise (a : Archive ρ) (r : ρ) : Except ArchiveError Unit × Archive ρ :=
  if a.accepting && !a.failed then (.ok (), { a with queue := a.queue ++ [r] })
  else (.error .stopped, a)

variable [Tabular ρ]

/-- The file with the names of the columns, which the first record brings. -/
def withHeader (file : List Row) (r : ρ) : List Row :=
  if file.isEmpty ∧ ¬ (Tabular.header r).isEmpty then [Tabular.header r] else file

/-- The file with the row of a record, if its width fits. -/
def append? (file : List Row) (r : ρ) : Option (List Row) :=
  let file := withHeader file r
  if file.head?.all (·.length == (Tabular.cells r).length) then some (file ++ [Tabular.cells r])
  else none

/-- One step of the writer. -/
def writeNext (a : Archive ρ) : Archive ρ :=
  match a.queue with
  | [] => a
  | r :: queue =>
    match append? a.file r with
    | some file => { a with queue, file }
    | none => { a with queue := [], failed := true }

/-- Write records until one does not fit. The flag tells whether there was such a one. -/
def writeAll (file : List Row) : List ρ → List Row × Bool
  | [] => (file, false)
  | r :: rs =>
    match append? file r with
    | some file => writeAll file rs
    | none => (file, true)

/-- Close the archive once the queue has been written. The first close tells the writer's outcome. -/
def close (a : Archive ρ) : Except ArchiveError Unit × Archive ρ :=
  let (file, failed) := writeAll a.file a.queue
  let failed := a.failed || failed
  (if failed && !a.collected then .error .write else .ok (), ⟨[], file, false, failed, true⟩)

/-- Queue records and close the archive behind them. -/
def fill (a : Archive ρ) (records : List ρ) : Archive ρ :=
  (records.foldl (fun a r => (a.serialise r).2) a).close.2

/-- The text of the file. -/
def text (a : Archive ρ) : String := String.join (a.file.map fun row => row.text ++ "\n")

/-! ## Archives over time -/

/-- What can happen to an archive: its owner queues or closes, and the writer takes a step. -/
inductive Event (ρ : Type) where
  | serialise (r : ρ)
  | close
  | write

/-- The archive after an event, and the answer to its owner. -/
def step (a : Archive ρ) : Event ρ → Archive ρ × Option (Except ArchiveError Unit)
  | .serialise r => ((a.serialise r).2, some (a.serialise r).1)
  | .close => (a.close.2, some a.close.1)
  | .write => (a.writeNext, none)

/-- The archive after a list of events, and the answers. -/
def run (a : Archive ρ) : List (Event ρ) → Archive ρ × List (Option (Except ArchiveError Unit))
  | [] => (a, [])
  | e :: es =>
    let (a, r) := a.step e
    let (a, rs) := run a es
    (a, r :: rs)

end Archive

end BoomWalker
