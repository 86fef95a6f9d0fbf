/-
What a gait is: a state machine that turns a measured snapshot and the operator's inputs into a
command, once per control cycle.

A gait never sees a disabled cycle as an evaluation. The controller that owns it (`GaitControl`)
answers those itself and calls `reset`.

Of a cycle a gait is told the length only. The time of the cycle and its number are left out, since no
gait answers to them: the controller counts the cycles, and the archive puts the time in front of the
diagnostic record.
-/
import BoomWalker.Rig.Command

namespace BoomWalker

/-- One value of a diagnostic record. -/
inductive Cell (α : Type) where
  | index (n : Nat)
  | real (x : α)

/-- A diagnostic record: named values in the order of their columns. -/
abbrev Record (α : Type) := List (String × Cell α)

/-- The columns of the six motor currents of a command. -/
def currentColumns {α : Type} (c : Command α) : Record α :=
  [("l_current_a", .real c.legs.left.a), ("l_current_b", .real c.legs.left.b),
    ("l_current_hip", .real c.legs.left.hip), ("r_current_a", .real c.legs.right.a),
    ("r_current_b", .real c.legs.right.b), ("r_current_hip", .real c.legs.right.hip)]

/-- A gait algorithm over the scalars `α`. -/
structure Gait (α : Type) where
  /-- Static parameters. -/
  Params : Type
  /-- What the operator sets while the gait runs. -/
  Input : Type
  /-- Memory from one cycle to the next. -/
  State : Type
  /-- Status published as telemetry. -/
  Report : Type
  name : String
  defaultParams : Params
  defaultInput : Input
  /-- The state before any parameters were applied. -/
  initial : State
  /-- Take on parameters before the first cycle. -/
  configure : Params → State → State
  /-- Return to safe defaults on a disabled cycle. -/
  reset : Params → Snapshot α → State → State
  /-- Prepare for the first enabled cycle, seeding memory from the measured state. -/
  onEnable : Params → Snapshot α → State → State
  /-- The command of one cycle of the given length in seconds. -/
  evaluate : Params → α → Snapshot α → Input → State → State × Command α
  report : State → Report
  /-- The diagnostic record of the last cycle. -/
  log : State → Record α

end BoomWalker
