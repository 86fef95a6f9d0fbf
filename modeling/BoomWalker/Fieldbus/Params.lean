/-
Parameters of the fieldbus.
-/
import BoomWalker.Scalar

namespace BoomWalker

/-- The simulated bus. -/
structure SimParams (α : Type) where
  numSlaves : Nat
  /-- Frames after activation until the slaves are operational. -/
  linkUpCycles : Nat
  /-- Steady motor velocity per ampere. -/
  plantGain : α
  /-- Time constant of the motor velocity, in seconds. -/
  plantTimeConstant : α

/-- The fieldbus and the simulated bus that may take its place. -/
structure FieldbusParams (α : Type) where
  masterIndex : Nat
  vendor : Nat
  /-- Product code of each slave, left leg first. -/
  productCodes : List Nat
  /-- Length of the cycle, in nanoseconds. -/
  cyclePeriod : Nat
  /-- Offset of the slaves' pulse from the start of the period, in nanoseconds. -/
  clockOffset : Nat
  /-- Word that turns on a slave's clock. -/
  clockAssign : Nat
  /-- Time for a frame to travel the bus, in microseconds. -/
  guardDelay : Nat
  /-- Cycles between synchronisations of the reference clock. -/
  refClockCycles : Nat
  sim : SimParams α

/-- What is wrong with fieldbus parameters. -/
inductive FieldbusParamsError where
  | codeCount (found : Nat)
  | periodZero
  | refClockZero
deriving DecidableEq, Repr

def FieldbusParamsError.message : FieldbusParamsError → String
  | codeCount n => "Expected 2 product codes, found " ++ toString n
  | periodZero => "cycle_period_ns must be positive"
  | refClockZero => "ref_clock_sync_cycles must be positive"

variable {α : Type} [Scalar α]

def SimParams.standard : SimParams α := ⟨2, 5, 0.5, 0.02⟩

namespace FieldbusParams

def standard : FieldbusParams α := ⟨0, 0x6AB, [1, 2], 1000000, 0, 0x300, 300, 10, .standard⟩

omit [Scalar α] in
/-- The first parameter that cannot be used, if any. -/
def check (p : FieldbusParams α) : Except FieldbusParamsError Unit :=
  if p.productCodes.length ≠ 2 then .error (.codeCount p.productCodes.length)
  else if p.cyclePeriod = 0 then .error .periodZero
  else if p.refClockCycles = 0 then .error .refClockZero
  else .ok ()

end FieldbusParams

end BoomWalker
