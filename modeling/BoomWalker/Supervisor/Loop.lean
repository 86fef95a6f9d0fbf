/-
The control loop on a fieldbus: cycles up to a limit, and the way the rig is left at rest after it.
-/
import BoomWalker.Fieldbus.Connection
import BoomWalker.Supervisor.Cycle

namespace BoomWalker

/-- What the surroundings of the loop do in a cycle. -/
structure Moment (α : Type) where
  /-- Time at the start of the cycle, in seconds. -/
  time : α
  /-- Time told to the fieldbus, in nanoseconds. -/
  busTime : Nat
  receipts : List Receipt
  /-- Time that the cycle takes, in nanoseconds. -/
  elapsed : Nat

variable {M α : Type} [Scalar α]

/-- A supervisor and the connection that it drives. -/
structure ControlLoop (M : Type) (g : Gait α) where
  supervisor : Supervisor g
  connection : Connection M α

/-- How a loop ends. -/
inductive LoopEnd where
  /-- The limit of cycles is reached. -/
  | limit
  | busFailed (e : FieldbusError)
  /-- No more cycles are known. -/
  | interrupted
deriving DecidableEq, Repr

namespace ControlLoop

variable [Master M] [Transmit α] {g : Gait α}

/-- The work of a cycle, unless the fieldbus fails. The time that the cycle takes has no say yet. -/
def work (read : String → Option (OperatorPacket g.Input)) (l : ControlLoop M g) (m : Moment α) :
    ControlLoop M g × Except FieldbusError (CycleOutput g) :=
  match l.connection.cycle m.busTime [] with
  | (.error e, connection) => ({ l with connection }, .error e)
  | (.ok state, connection) =>
    let (supervisor, output) := l.supervisor.work read ⟨m.time, m.receipts, state, m.elapsed⟩
    (⟨supervisor, output.submitted.foldl .submit connection⟩, .ok output)

/-- The end of a cycle that took the given time in nanoseconds. -/
def settle (limits : CycleLimits) (elapsed : Nat) (l : ControlLoop M g) :
    ControlLoop M g × Option (Command α) :=
  let (supervisor, fault) := l.supervisor.settle limits elapsed
  (⟨supervisor, fault.toList.foldl .submit l.connection⟩, fault)

/-- One cycle, unless the fieldbus fails. -/
def cycle (limits : CycleLimits) (read : String → Option (OperatorPacket g.Input))
    (l : ControlLoop M g) (m : Moment α) : ControlLoop M g × Except FieldbusError (CycleOutput g) :=
  match l.work read m with
  | (l, .error e) => (l, .error e)
  | (l, .ok output) =>
    let (l, fault) := l.settle limits m.elapsed
    (l, .ok { output with submitted := output.submitted ++ fault.toList })

/-- Is the limit of cycles reached? -/
def atLimit (max : Option Nat) (l : ControlLoop M g) : Bool :=
  max.any (· ≤ l.supervisor.store.numCycles)

/-- Cycle until the limit, and collect what the cycles give out. -/
def run (limits : CycleLimits) (read : String → Option (OperatorPacket g.Input))
    (max : Option Nat) :
    ControlLoop M g → List (Moment α) → ControlLoop M g × LoopEnd × List (CycleOutput g)
  | l, [] => (l, if l.atLimit max then .limit else .interrupted, [])
  | l, m :: ms =>
    if l.atLimit max then (l, .limit, [])
    else
      match l.cycle limits read m with
      | (l, .error e) => (l, .busFailed e, [])
      | (l, .ok output) =>
        let (l, ending, outputs) := run limits read max l ms
        (l, ending, output :: outputs)

/-- Leave the rig at rest: submit an idle command, stop and release the fieldbus. -/
def shutDown (l : ControlLoop M g) : Link M := ((l.connection.submit (.zero .idle)).stop).cleanup

end ControlLoop

end BoomWalker
