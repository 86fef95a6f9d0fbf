/-
Numbers in JSON texts.

A number without point and exponent is an integer if it fits 64 bits. Any other number is real: its
leading digits, as many as fit 64 bits, are scaled by a power of ten. A number whose scaled value is
infinite is refused.
-/
import BoomWalker.Json.Basic
import BoomWalker.Text.Digits
import BoomWalker.Word

namespace BoomWalker.Json

/-- A number as read. -/
inductive Numeral where
  | natural (n : Nat)
  | negative (n : Int)
  | real (x : Float)

/-- The largest coefficient of a real number. -/
def maxCoefficient : Nat := Word.max64

/-- The largest exponent that is read; a longer one counts as beyond every bound. -/
def maxExponent : Nat := 2147483647

/-- The digits at the front of a text, and the rest. -/
def spanDigits (cs : List Char) : List Char × List Char := cs.span Char.isDigit

/-- The largest power of ten that is applied in one step. -/
def maxPower : Nat := 308

/-- Divide by a power of ten in steps. Three full steps take every coefficient to zero. -/
def scaleDown : Nat → Float → Nat → Float
  | 0, f, _ => f
  | fuel + 1, f, e =>
    if e ≤ maxPower then f / Float.ofScientific 1 false e
    else if f == 0 then f
    else scaleDown fuel (f / Float.ofScientific 1 false maxPower) (e - maxPower)

/-- Coefficient times a power of ten, unless that is out of range. -/
def scaled (coefficient : Nat) (e : Int) : Except ReadError Float :=
  let f := Float.ofNat coefficient
  if 0 ≤ e then
    if e.toNat ≤ maxPower then
      let x := f * Float.ofScientific 1 false e.toNat
      if x.isInf then .error .malformed else .ok x
    else if coefficient = 0 then .ok f
    else .error .malformed
  else .ok (scaleDown 4 f (-e).toNat)

/-- Take digits into a coefficient while it fits 64 bits: the coefficient, the number of digits
taken, and the digits left. -/
def takeCoefficient (coefficient : Nat) : List Char → Nat × Nat × List Char
  | [] => (coefficient, 0, [])
  | d :: ds =>
    let next := Digits.push coefficient d
    if next ≤ maxCoefficient then
      let (c, n, left) := takeCoefficient next ds
      (c, n + 1, left)
    else (coefficient, 0, d :: ds)

/-- The value of an exponent's digits, unless it is beyond the bound. -/
def exponentValue? (digits : List Char) : Option Nat :=
  let e := Digits.toNat digits
  if e ≤ maxExponent then some e else none

/-- An exponent after its letter, for a coefficient already scaled by `10 ^ e`. -/
def readExponent (coefficient : Nat) (e : Int) (cs : List Char) :
    Except ReadError (Float × List Char) :=
  let (negative, cs) := match cs with
    | '+' :: rest => (false, rest)
    | '-' :: rest => (true, rest)
    | _ => (false, cs)
  match spanDigits cs with
  | ([], []) => .error .endOfText
  | ([], _ :: _) => .error .malformed
  | (digits, rest) =>
    match exponentValue? digits with
    | some x => do .ok (← scaled coefficient (if negative then e - x else e + x), rest)
    | none =>
      if coefficient ≠ 0 ∧ ¬ negative then .error .malformed else .ok (0, rest)

/-- What follows the digits of a real number: an exponent, or nothing. -/
def readScale (coefficient : Nat) (e : Int) : List Char → Except ReadError (Float × List Char)
  | 'e' :: rest => readExponent coefficient e rest
  | 'E' :: rest => readExponent coefficient e rest
  | rest => do .ok (← scaled coefficient e, rest)

/-- A fraction after its point, for a coefficient already scaled by `10 ^ e`. Digits that no longer
fit the coefficient are dropped. -/
def readFraction (coefficient : Nat) (e : Int) (cs : List Char) :
    Except ReadError (Float × List Char) :=
  match spanDigits cs with
  | (digits, rest) =>
    let (c, taken, left) := takeCoefficient coefficient digits
    if taken = 0 ∧ left = [] then
      if rest = [] then .error .endOfText else .error .malformed
    else readScale c (e - taken) rest

/-- A number without its sign, which is given. -/
def readUnsigned (negative : Bool) (cs : List Char) : Except ReadError (Numeral × List Char) :=
  let sign (x : Float) : Float := if negative then -x else x
  let real (r : Except ReadError (Float × List Char)) : Except ReadError (Numeral × List Char) := do
    let (x, rest) ← r
    .ok (.real (sign x), rest)
  match spanDigits cs with
  | ([], []) => .error .endOfText
  | ([], _ :: _) => .error .malformed
  | ('0' :: _ :: _, _) => .error .malformed
  | (digits, rest) =>
    let (c, _, left) := takeCoefficient 0 digits
    match rest with
    | '.' :: rest => real (readFraction c left.length rest)
    | 'e' :: rest => real (readExponent c left.length rest)
    | 'E' :: rest => real (readExponent c left.length rest)
    | _ =>
      if left ≠ [] then real (readScale c left.length rest)
      else if ¬ negative then .ok (.natural c, rest)
      else if c = 0 ∨ 9223372036854775808 < c then .ok (.real (-(Float.ofNat c)), rest)
      else .ok (.negative (-(c : Int)), rest)

/-- Skip an exponent after its letter. -/
def skipExponent (cs : List Char) : Except ReadError (List Char) :=
  let cs := match cs with
    | '+' :: rest => rest
    | '-' :: rest => rest
    | _ => cs
  match spanDigits cs with
  | ([], _) => .error .malformed
  | (_, rest) => .ok rest

/-- Skip what may follow the digits of a number. -/
def skipScale : List Char → Except ReadError (List Char)
  | 'e' :: rest => skipExponent rest
  | 'E' :: rest => skipExponent rest
  | rest => .ok rest

/-- Skip a number without its sign. Only its form is checked, not its range. -/
def skipUnsigned (cs : List Char) : Except ReadError (List Char) :=
  match spanDigits cs with
  | ([], _) => .error .malformed
  | ('0' :: _ :: _, _) => .error .malformed
  | (_, '.' :: rest) =>
    match spanDigits rest with
    | ([], _) => .error .malformed
    | (_, rest) => skipScale rest
  | (_, rest) => skipScale rest

end BoomWalker.Json
