/-
What the controller sends to the rig in one cycle: six motor currents in amperes, and the code
that decides whether the amplifiers apply them.
-/
import BoomWalker.Rig.State

namespace BoomWalker

/-- How the leg electronics treat the currents they receive. -/
inductive CommandCode where
  /-- Amplifiers off. -/
  | idle
  /-- Amplifiers on, currents are applied. -/
  | run
  /-- Amplifiers off until the fault is cleared. -/
  | fault
deriving DecidableEq, Repr, Inhabited

namespace CommandCode

/-- The code on the wire. -/
def toByte : CommandCode → UInt8
  | idle => 0
  | run => 1
  | fault => 2

/-- Any code outside the list is a fault. -/
def ofByte (b : UInt8) : CommandCode :=
  if b = 0 then idle else if b = 1 then run else fault

theorem ofByte_toByte (c : CommandCode) : ofByte c.toByte = c := by cases c <;> rfl

def name : CommandCode → String
  | idle => "Idle"
  | run => "Run"
  | fault => "Fault"

def ofName? (s : String) : Option CommandCode :=
  [idle, run, fault].find? (·.name == s)

end CommandCode

/-- The motor currents of one leg. -/
structure LegCurrents (α : Type) where
  a : α
  b : α
  hip : α
deriving Inhabited

namespace LegCurrents

variable {α : Type}

def zero [Scalar α] : LegCurrents α := ⟨0, 0, 0⟩

def toList (c : LegCurrents α) : List α := [c.a, c.b, c.hip]

def map (f : α → α) (c : LegCurrents α) : LegCurrents α := ⟨f c.a, f c.b, f c.hip⟩

/-- Is every current exactly zero? -/
def isZero [Scalar α] (c : LegCurrents α) : Bool := c.toList.all (· == 0)

end LegCurrents

/-- The output of one control cycle. -/
structure Command (α : Type) where
  legs : Sided (LegCurrents α)
  code : CommandCode
deriving Inhabited

namespace Command

variable {α : Type}

/-- Exchange the currents of the legs. -/
def swapLegs (c : Command α) : Command α := { c with legs := c.legs.swap }

variable [Scalar α]

/-- No current in any motor, under the given code. -/
def zero (code : CommandCode) : Command α := ⟨.both .zero, code⟩

/-- No current in any motor and the amplifiers off. -/
def safe : Command α := zero .idle

/-- Multiply every current by a factor. -/
def scale (c : Command α) (factor : α) : Command α :=
  { c with legs := c.legs.map (·.map (· * factor)) }

/-- Is every current exactly zero? -/
def isZeroCurrent (c : Command α) : Bool := c.legs.left.isZero && c.legs.right.isZero

end Command

end BoomWalker
