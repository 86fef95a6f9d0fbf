/-
The frames that a leg's electronics exchange with the controller.

A command frame holds the code, a watchdog counter and three currents. A state frame holds the ten
measurements of the leg, the four of the body and a counter of the slave's updates. All quantities
are words in little-endian order.
-/
import BoomWalker.Fieldbus.Bytes
import BoomWalker.Fieldbus.Single
import BoomWalker.Rig.Command

namespace BoomWalker

variable {α : Type}

/-- A command as the slave reads it. -/
structure CommandFrame (α : Type) where
  code : CommandCode
  watchdog : UInt16
  currents : LegCurrents α

/-- A state as the slave writes it. -/
structure StateFrame (α : Type) where
  leg : LegState α
  position : BodyPosition α
  counter : UInt16

variable [Transmit α]

namespace Bytes

/-- The words of a list of quantities. -/
def ofScalars (xs : List α) : Bytes := xs.flatMap fun x => ofWord32 (Transmit.toWord x)

/-- Take a number of quantities off the front. -/
def scalars? : Nat → Bytes → Option (List α × Bytes)
  | 0, bytes => some ([], bytes)
  | n + 1, bytes => do
    let (w, rest) ← word32? bytes
    let (xs, rest) ← scalars? n rest
    return (Transmit.ofWord w :: xs, rest)

end Bytes

namespace CommandFrame

/-- Length of a command frame in bytes. -/
def length : Nat := 15

def toBytes (f : CommandFrame α) : Bytes :=
  f.code.toByte :: Bytes.ofWord16 f.watchdog ++ Bytes.ofScalars f.currents.toList

/-- The command that a frame holds. -/
def ofBytes? : Bytes → Option (CommandFrame α)
  | [] => none
  | code :: rest => do
    let (watchdog, rest) ← Bytes.word16? rest
    let ([a, b, hip], _) ← Bytes.scalars? 3 rest | none
    return ⟨.ofByte code, watchdog, ⟨a, b, hip⟩⟩

end CommandFrame

namespace StateFrame

/-- Length of a state frame in bytes. -/
def length : Nat := 58

/-- Where the counter stands in a state frame. -/
def counterOffset : Nat := 56

def toBytes (f : StateFrame α) : Bytes :=
  Bytes.ofScalars (f.leg.toList ++ f.position.toList) ++ Bytes.ofWord16 f.counter

/-- The state that a frame holds. -/
def ofBytes? (bytes : Bytes) : Option (StateFrame α) := do
  let (leg, rest) ← Bytes.scalars? 10 bytes
  let (position, rest) ← Bytes.scalars? 4 rest
  let (counter, _) ← Bytes.word16? rest
  return ⟨← LegState.ofList? leg, ← BodyPosition.ofList? position, counter⟩

omit [Transmit α] in
/-- The counter of a frame. -/
def counter? (bytes : Bytes) : Option UInt16 :=
  (Bytes.word16? (bytes.drop counterOffset)).map (·.1)

end StateFrame

end BoomWalker
