/-
What the control loop keeps from cycle to cycle and publishes. Cycles and overruns are counted without
a bound (`Word`).
-/
import BoomWalker.Supervisor.Safety

namespace BoomWalker

/-- The state of the control loop. Reports of the gait are of type `ρ`. -/
structure Store (α ρ : Type) where
  /-- Cycles completed. -/
  numCycles : Nat
  /-- Time at the start of the cycle, in seconds. -/
  time : α
  safety : Safety
  /-- The last snapshot that the fieldbus delivered. -/
  snapshot : Option (Snapshot α)
  /-- Was the snapshot delivered in this cycle? -/
  fresh : Bool
  /-- Did the fieldbus deliver a snapshot in the last cycle? -/
  link : Bool
  /-- The command submitted last. -/
  command : Command α
  report : Option ρ
  /-- Cycles in a row that took longer than the period. -/
  overruns : Nat

namespace Store

variable {α ρ : Type}

/-- The state before the first cycle. -/
def initial [Scalar α] : Store α ρ := ⟨0, 0, .off, none, false, false, .safe, none, 0⟩

/-- Enter safe mode. -/
def makeSafe (s : Store α ρ) (c : SafeCause) : Store α ρ :=
  { s with safety := s.safety.makeSafe c }

/-- Clear a cause of safe mode. -/
def makeUnsafe (s : Store α ρ) (c : SafeCause) : Store α ρ × Bool :=
  ({ s with safety := (s.safety.makeUnsafe c).1 }, (s.safety.makeUnsafe c).2)

/-- Begin a cycle. -/
def cycleStart (s : Store α ρ) (now : α) : Store α ρ := { s with fresh := false, time := now }

/-- Complete a cycle. -/
def cycleEnd (s : Store α ρ) : Store α ρ := { s with numCycles := s.numCycles + 1 }

end Store

end BoomWalker
