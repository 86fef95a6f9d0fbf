/-
The controller that owns a gait: enabling, disabling and the startup ramp.

A disabled cycle is answered on the spot by the safe command and resets the gait. The first enabled
cycle after that prepares the gait, and from then on the currents are ramped in.

Cycles are counted without a bound (`Word`).
-/
import BoomWalker.Decimal.Plain
import BoomWalker.Gait.Basic

namespace BoomWalker

variable {α : Type}

/-- Parameters common to every gait. -/
structure Framework (α : Type) where
  /-- Length of the control cycle, in seconds. -/
  cyclePeriod : α
  /-- Time over which currents are ramped in after enabling, in seconds. Zero turns the ramp off. -/
  startupRamp : α

/-- What is wrong with framework parameters. -/
inductive FrameworkError (α : Type) where
  | periodNotPositive (found : α)
  | rampNegative (found : α)

def FrameworkError.message : FrameworkError Float → String
  | .periodNotPositive x => "cycle_period_s must be positive, found " ++ Decimal.plain x
  | .rampNegative x => "startup_ramp_s must not be negative, found " ++ Decimal.plain x

/-- A gait under control. -/
structure GaitControl (g : Gait α) where
  framework : Framework α
  params : g.Params
  gait : g.State
  /-- Was the last cycle enabled? -/
  enabled : Bool
  /-- Enabled cycles since the gait was enabled. -/
  enabledCycles : Nat
  /-- Cycles processed, disabled ones included. -/
  numCycles : Nat

/-- Input of one control cycle. -/
structure GaitInput (g : Gait α) where
  state : Snapshot α
  gui : g.Input
  enabled : Bool

/-- Status of one control cycle. -/
structure GaitStatus (g : Gait α) where
  enabled : Bool
  /-- The factor on the currents, below one during the ramp. -/
  rampFactor : α
  gait : g.Report

variable [Scalar α]

namespace Framework

def standard : Framework α := ⟨0.001, 0.5⟩

/-- The first parameter that is out of range, if any. An undefined value is out of range. -/
def check (f : Framework α) : Except (FrameworkError α) Unit :=
  if ¬ 0 < f.cyclePeriod then .error (.periodNotPositive f.cyclePeriod)
  else if ¬ 0 ≤ f.startupRamp then .error (.rampNegative f.startupRamp)
  else .ok ()

/-- The factor on the currents after a number of enabled cycles. -/
def rampFactor (f : Framework α) (enabledCycles : Nat) : α :=
  if f.startupRamp ≤ 0 then 1
  else Scalar.minNum (Scalar.ofNat enabledCycles * f.cyclePeriod / f.startupRamp) 1

end Framework

/-- The status before any cycle. -/
def GaitStatus.initial (g : Gait α) : GaitStatus g := ⟨false, 0, g.report g.initial⟩

namespace GaitControl

variable {g : Gait α}

/-- A controller around a gait that was never given parameters. -/
def unconfigured (g : Gait α) : GaitControl g :=
  ⟨.standard, g.defaultParams, g.initial, false, 0, 0⟩

/-- A controller with checked parameters. -/
def new (g : Gait α) (framework : Framework α) (params : g.Params) :
    Except (FrameworkError α) (GaitControl g) := do
  framework.check
  return ⟨framework, params, g.configure params g.initial, false, 0, 0⟩

/-- Disable at once. The next enabled input enables anew. -/
def makeSafe (c : GaitControl g) : GaitControl g := { c with enabled := false, enabledCycles := 0 }

/-- One control cycle. -/
def process (c : GaitControl g) (i : GaitInput g) : GaitControl g × Command α × GaitStatus g :=
  let c := { c with numCycles := c.numCycles + 1 }
  if i.enabled then
    let c := if c.enabled then c else
      { c with enabled := true, enabledCycles := 0, gait := g.onEnable c.params i.state c.gait }
    let (gait, output) := g.evaluate c.params c.framework.cyclePeriod i.state i.gui c.gait
    let ramp := c.framework.rampFactor c.enabledCycles
    let output := if ramp < 1 then output.scale ramp else output
    ({ c with gait, enabledCycles := c.enabledCycles + 1 }, output, ⟨true, ramp, g.report gait⟩)
  else
    let gait := g.reset c.params i.state c.gait
    ({ c with gait, enabled := false, enabledCycles := 0 }, .safe, ⟨false, 0, g.report gait⟩)

/-- What can happen to a controller. -/
inductive Event (g : Gait α) where
  | process (input : GaitInput g)
  | makeSafe

/-- The controller after an event, with the command that the event put out. -/
def step (c : GaitControl g) : Event g → GaitControl g × Option (Command α × GaitStatus g)
  | .process i => ((c.process i).1, some (c.process i).2)
  | .makeSafe => (c.makeSafe, none)

/-- Run a list of events and collect what they put out. -/
def run (c : GaitControl g) : List (Event g) → GaitControl g × List (Command α × GaitStatus g)
  | [] => (c, [])
  | e :: es =>
    let (next, out) := c.step e
    let (last, outs) := run next es
    (last, out.toList ++ outs)

end GaitControl

end BoomWalker
