/-
Natural numbers written in decimal digits.
-/

namespace BoomWalker.Digits

/-- A number with one more digit at its end. -/
def push (n : Nat) (digit : Char) : Nat := n * 10 + (digit.toNat - '0'.toNat)

/-- The number that digits spell; it is zero if there are none. -/
def toNat (digits : List Char) : Nat := digits.foldl push 0

/-- The number that a text of nothing but digits spells. An empty text spells none. -/
def read? (text : List Char) : Option Nat :=
  if text ≠ [] ∧ text.all Char.isDigit then some (toNat text) else none

end BoomWalker.Digits
