/-
The form of what an operator sets while a gait runs: a record of flags, small integers and real
numbers. Fields that are left out keep their standard values.
-/
import BoomWalker.Json.Record

namespace BoomWalker

open Json

/-- Where the value of a field is kept. -/
inductive Slot (ρ : Type) where
  | flag (get : ρ → Bool) (set : ρ → Bool → ρ)
  | byte (get : ρ → UInt8) (set : ρ → UInt8 → ρ)
  | real (get : ρ → Float) (set : ρ → Float → ρ)

/-- A named field of an operator's input. -/
structure InputField (ρ : Type) where
  name : String
  slot : Slot ρ

namespace Slot

variable {ρ : Type}

/-- Read the value of a field into the record. -/
def read : Slot ρ → ρ → Reader ρ
  | flag _ set, r, cs => do
    let (b, rest) ← readBool cs
    .ok (set r b, rest)
  | byte _ set, r, cs => do
    let (n, rest) ← readNatural 255 cs
    .ok (set r (UInt8.ofNat n), rest)
  | real _ set, r, cs => do
    let (x, rest) ← readReal cs
    .ok (set r x, rest)

/-- The value of a field. -/
def toJson (r : ρ) : Slot ρ → Json
  | flag get _ => .bool (get r)
  | byte get _ => .int (get r).toNat
  | real get _ => .real (get r)

end Slot

namespace InputField

variable {ρ : Type}

def toField (f : InputField ρ) : RecordField ρ := ⟨f.name, false, f.slot.read⟩

/-- Read an input, starting from standard values. Its array may end early. -/
def readInput (fields : List (InputField ρ)) (standard : ρ) : Reader ρ :=
  readRecord true (fields.map toField) standard

/-- The form of an input. -/
def inputToJson (fields : List (InputField ρ)) (r : ρ) : Json :=
  .obj (fields.map fun f => (f.name, f.slot.toJson r))

end InputField

end BoomWalker
