/-
Reading decimals: the binary64 value nearest to a decimal, ties to even.
-/
import BoomWalker.Decimal.Binary
import BoomWalker.Text.Digits

namespace BoomWalker.Decimal

/-- The value nearest to a decimal. Decimals beyond every finite value, or closer to zero than every
other value, are settled by their magnitude alone. -/
def nearest (d : Dec) : Float :=
  let magnitude := d.exp + (digitsOf d.digits).length
  if d.digits = 0 ∨ magnitude < -330 then 0
  else if 310 < magnitude then Float.ofScientific 1 false 400
  else Float.ofScientific d.digits (d.exp < 0) d.exp.natAbs

/-- An exponent with an optional sign. -/
def exponent? : List Char → Option Int
  | '-' :: cs => (Digits.read? cs).map fun n => -(n : Int)
  | '+' :: cs => (Digits.read? cs).map Int.ofNat
  | cs => (Digits.read? cs).map Int.ofNat

/-- A decimal without sign: digits, an optional fraction, an optional exponent. -/
def unsigned? (cs : List Char) : Option Dec := do
  let (whole, rest) := cs.span Char.isDigit
  let (fraction, rest) := match rest with
    | '.' :: rest => rest.span Char.isDigit
    | _ => ([], rest)
  if whole = [] ∧ fraction = [] then none
  let e ← match rest with
    | [] => some 0
    | 'e' :: rest => exponent? rest
    | 'E' :: rest => exponent? rest
    | _ => none
  return ⟨Digits.toNat (whole ++ fraction), e - fraction.length⟩

/-- The value of a decimal with an optional sign. -/
def read? : List Char → Option Float
  | '-' :: cs => (unsigned? cs).map fun d => -(nearest d)
  | '+' :: cs => (unsigned? cs).map nearest
  | cs => (unsigned? cs).map nearest

end BoomWalker.Decimal
