/-
Texts of numbers that a person or another program reads back: positional without an exponent, as
messages write them, and a form with an exponent for very large and very small values.
-/
import BoomWalker.Decimal.Shortest

namespace BoomWalker.Decimal

/-- Lay digits out positionally; the value is `0.d₁d₂… · 10 ^ point`. -/
def positional (digits : List Char) (point : Int) : List Char :=
  if point ≤ 0 then '0' :: '.' :: List.replicate (-point).toNat '0' ++ digits
  else if digits.length ≤ point.toNat then
    digits ++ List.replicate (point.toNat - digits.length) '0'
  else digits.take point.toNat ++ '.' :: digits.drop point.toNat

/-- The magnitude of a finite value, positional. -/
def plainMagnitude (x : Binary) : List Char :=
  if x.m = 0 then ['0']
  else
    let d := x.shortest
    let digits := digitsOf d.digits
    positional digits (d.exp + digits.length)

/-- The shortest digits that read back, never with an exponent. -/
def plain (x : Float) : String :=
  if x.isNaN then "NaN"
  else
    let sign := if isSigned x then "-" else ""
    if x.isInf then sign ++ "inf"
    else sign ++ String.ofList (plainMagnitude (.ofBits x.toBits))

/-- Text of an exponent. -/
def exponentText (e : Int) : List Char := (toString e).toList

/-- The magnitude of a finite value: positional with a decimal point for exponents of the leading
digit from -5 to 15, else one digit before the point and an exponent. -/
def numeralMagnitude (x : Binary) : List Char :=
  if x.m = 0 then ['0', '.', '0']
  else
    let d := x.shortest
    let digits := digitsOf d.digits
    let lead := d.exp + digits.length - 1
    if lead < -5 ∨ 15 < lead then
      match digits with
      | [c] => c :: 'e' :: exponentText lead
      | c :: cs => c :: '.' :: cs ++ 'e' :: exponentText lead
      | [] => ['0']
    else
      let text := positional digits (lead + 1)
      if text.contains '.' then text else text ++ ['.', '0']

/-- The shortest digits that read back, as a numeral of a data format. Only for finite values. -/
def numeral (x : Float) : List Char :=
  (if isSigned x then ['-'] else []) ++ numeralMagnitude (.ofBits x.toBits)

end BoomWalker.Decimal
