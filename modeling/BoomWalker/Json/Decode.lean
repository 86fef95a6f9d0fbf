/-
Taking values of known shape out of a value that was read before.

A record may be an object or a list of its fields in order. In an object every field occurs exactly
once, and further fields are passed over; a list has no further items.
-/
import BoomWalker.Json.Basic

namespace BoomWalker.Json

/-- Any number, as a real. -/
def asReal? : Json → Option Float
  | int n => some (Float.ofInt n)
  | real x => some x
  | _ => none

/-- An integer from zero to `max`. -/
def asNatural? (max : Nat) : Json → Option Nat
  | int n => if 0 ≤ n ∧ n.toNat ≤ max then some n.toNat else none
  | _ => none

def asText? : Json → Option String
  | str s => some s
  | _ => none

def asList? : Json → Option (List Json)
  | arr items => some items
  | _ => none

/-- The value of a field that occurs exactly once. -/
def onlyField? (fields : List (String × Json)) (name : String) : Option Json :=
  match fields.filter (·.1 == name) with
  | [(_, v)] => some v
  | _ => none

/-- The values of the fields of a record, in the order of the names. -/
def fields? (names : List String) : Json → Option (List Json)
  | obj fields => names.mapM (onlyField? fields)
  | arr items => if items.length = names.length then some items else none
  | _ => none

end BoomWalker.Json
