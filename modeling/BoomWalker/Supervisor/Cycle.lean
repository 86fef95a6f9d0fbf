/-
One cycle of the control loop around a gait.

In a cycle the operator is heard, the state that the fieldbus delivered is taken in, the gait answers
a fresh state, and a command is submitted. The gait has its say only while the rig is not held safe;
otherwise the fallback command is submitted. Telemetry follows, and last the length of the cycle is
judged: too many overruns in a row hold the rig safe for good and submit a fault.
-/
import BoomWalker.Gait.Setup
import BoomWalker.Operator.Client
import BoomWalker.Supervisor.Store
import BoomWalker.Supervisor.Timer

namespace BoomWalker

/-- Limits on the length of cycles. -/
structure CycleLimits where
  /-- Length of a cycle, in nanoseconds. -/
  period : Nat
  /-- Overruns in a row that are tolerated. -/
  maxOverruns : Nat

variable {α : Type}

/-- What a cycle brings from outside. -/
structure CycleInput (α : Type) where
  /-- Time at the start of the cycle, in seconds. -/
  time : α
  receipts : List Receipt
  /-- The state that the fieldbus delivered, if any. -/
  state : Option (Snapshot α)
  /-- Time that the cycle took, in nanoseconds. -/
  elapsed : Nat

/-- What a cycle gives out. -/
structure CycleOutput (g : Gait α) where
  /-- Commands in the order of submission. -/
  submitted : List (Command α)
  /-- The record for the archive, if a state was processed. -/
  archived : Option (Record α)
  /-- The state of the loop, if telemetry was due. -/
  published : Option (Store α (GaitStatus g))

/-- The control loop between two cycles. -/
structure Supervisor (g : Gait α) where
  store : Store α (GaitStatus g)
  control : GaitControl g
  latch : OperatorLatch g.Input
  timer : PublishTimer α

variable [Scalar α]

namespace Supervisor

variable {g : Gait α}

/-- The loop before its first cycle. -/
def new (control : GaitControl g) (operatorTimeout : Nat) (telemetryRate : α) : Supervisor g :=
  ⟨.initial, control, .new operatorTimeout, .ofRate telemetryRate⟩

/-- Raise a cause of safe mode, or clear it. -/
def assess (s : Supervisor g) (raised : Bool) (c : SafeCause) : Supervisor g :=
  { s with store := if raised then s.store.makeSafe c else (s.store.makeUnsafe c).1 }

/-- Begin a cycle and hear the operator. A failure to receive is passed over. -/
def hear (read : String → Option (OperatorPacket g.Input)) (time : α) (receipts : List Receipt)
    (s : Supervisor g) : Supervisor g :=
  let latch := (s.latch.update read receipts).1
  { s with store := s.store.cycleStart time, latch }.assess latch.lost .guiLost

/-- Take in what the fieldbus delivered. -/
def observe (state : Option (Snapshot α)) (s : Supervisor g) : Supervisor g :=
  let store := match state with
    | some snapshot => { s.store with snapshot, fresh := true, link := true }
    | none => { s.store with link := false }
  { s with store }.assess state.isNone .linkDown

/-- The gait's input for a state. -/
def gaitInput (state : Snapshot α) (s : Supervisor g) : GaitInput g :=
  ⟨state, s.latch.params g.defaultInput, s.latch.enabled && !s.store.safety.safe⟩

/-- Choose the command. The gait answers a state that is fresh, and its record is archived. -/
def decide (s : Supervisor g) : Supervisor g × Option (Record α) :=
  let control := if s.store.safety.safe then s.control.makeSafe else s.control
  let s := { s with control, store.command := s.store.safety.fallback }
  match s.store.fresh, s.store.snapshot with
  | true, some state =>
    let (control, output, status) := s.control.process (s.gaitInput state)
    let command := if s.store.safety.safe then s.store.command else output
    ({ s with control, store := { s.store with command, report := some status } },
      some (control.record s.store.time))
  | _, _ => (s, none)

/-- Publish the state of the loop if telemetry is due. -/
def publish (s : Supervisor g) : Supervisor g × Option (Store α (GaitStatus g)) :=
  let (timer, due) := s.timer.due s.store.time
  ({ s with timer }, if due then some s.store else none)

/-- Count overruns, and hold the rig safe after too many in a row. The answer is the command that is
then submitted. -/
def judge (limits : CycleLimits) (elapsed : Nat) (s : Supervisor g) :
    Supervisor g × Option (Command α) :=
  if elapsed ≤ limits.period then ({ s with store.overruns := 0 }, none)
  else
    let s := { s with store.overruns := s.store.overruns + 1 }
    if limits.maxOverruns < s.store.overruns then
      let store := s.store.makeSafe .cycleOverrun
      let command : Command α := store.safety.fallback
      ({ s with store := { store with command }, control := s.control.makeSafe }, some command)
    else (s, none)

/-- The work of a cycle, up to its telemetry. -/
def work (read : String → Option (OperatorPacket g.Input)) (s : Supervisor g) (i : CycleInput α) :
    Supervisor g × CycleOutput g :=
  let (s, archived) := ((s.hear read i.time i.receipts).observe i.state).decide
  let command := s.store.command
  let (s, published) := s.publish
  (s, ⟨[command], archived, published⟩)

/-- The end of a cycle that took the given time in nanoseconds. -/
def settle (limits : CycleLimits) (elapsed : Nat) (s : Supervisor g) :
    Supervisor g × Option (Command α) :=
  let (s, fault) := s.judge limits elapsed
  ({ s with store := s.store.cycleEnd }, fault)

/-- One cycle. -/
def cycle (limits : CycleLimits) (read : String → Option (OperatorPacket g.Input))
    (s : Supervisor g) (i : CycleInput α) : Supervisor g × CycleOutput g :=
  let (s, output) := s.work read i
  let (s, fault) := s.settle limits i.elapsed
  (s, { output with submitted := output.submitted ++ fault.toList })

/-- A run of cycles. -/
def run (limits : CycleLimits) (read : String → Option (OperatorPacket g.Input))
    (s : Supervisor g) : List (CycleInput α) → Supervisor g × List (CycleOutput g)
  | [] => (s, [])
  | i :: is =>
    let (s, o) := s.cycle limits read i
    let (s, os) := run limits read s is
    (s, o :: os)

end Supervisor

end BoomWalker
