/-
Numbers in parameter files.

Digits may be grouped by single underscores. Integers are signed words of 64 bits, written in base
ten, or in another base under a mark of their own. A real number has a fraction or an exponent and
is finite, unless it is one of the named values.
-/
import BoomWalker.Decimal.Read
import BoomWalker.Json.Basic
import BoomWalker.Toml.Token
import BoomWalker.Word

namespace BoomWalker.Toml

/-- Is the character a digit of the base? -/
def isDigitOf (base : Nat) (c : Char) : Bool := (Hex.value? c).any (· < base)

/-- How far into a run of digits the reader is. -/
structure DigitRun where
  /-- Was a digit read? -/
  started : Bool
  /-- Is the first digit a zero? -/
  zero : Bool
  /-- Was the last character an underscore? -/
  open_ : Bool

/-- Digits without their underscores, and what follows them. There is at least one digit, and no
underscore at either end. A zero in front of other digits is refused unless `zeros` is set. -/
def digits? (base : Nat) (zeros : Bool) :
    DigitRun → List Char → Option (List Char × List Char)
  | r, [] => if r.started ∧ ¬ r.open_ then some ([], []) else none
  | r, c :: cs =>
    let next (r : DigitRun) : Option (List Char × List Char) :=
      (digits? base zeros r cs).map fun (ds, rest) => (c :: ds, rest)
    if c = '0' ∧ ¬ r.started then next ⟨true, true, false⟩
    else if isDigitOf base c then
      if r.zero ∧ ¬ zeros then none else next ⟨true, r.zero, false⟩
    else if c = '_' ∧ ¬ r.started then none
    else if c = '_' ∧ ¬ r.open_ then digits? base zeros { r with open_ := true } cs
    else if r.started ∧ ¬ r.open_ then some ([], c :: cs)
    else none

def digitRun? (base : Nat) (zeros : Bool) (cs : List Char) : Option (List Char × List Char) :=
  digits? base zeros ⟨false, false, false⟩ cs

/-- A minus sign, if there is one. -/
def sign : List Char → List Char × List Char
  | '-' :: cs => (['-'], cs)
  | cs => ([], cs)

/-- A word as an integer. Only base ten has a sign. -/
def integer? (base : Nat) (cs : List Char) : Option Json :=
  let (minus, cs) := if base = 10 then sign cs else ([], cs)
  match digitRun? base (base ≠ 10) cs with
  | some (ds, []) =>
    let n : Nat := ds.foldl (fun n d => n * base + (Hex.value? d).getD 0) 0
    let i : Int := if minus = [] then n else -n
    if Word.fitsSigned64 i then some (.int i) else none
  | _ => none

/-- A decimal by its text, if its value is finite. -/
def finite? (cs : List Char) : Option Json := do
  let x ← Decimal.read? cs
  if x.isFinite then some (.real x) else none

/-- The exponent that ends a real number, given the rest of its word and the tokens after that. -/
def exponent? (suffix : List Char) (ts : List Token) : Option (List Char × List Token) :=
  let whole (minus : List Char) (cs : List Char) (ts : List Token) :
      Option (List Char × List Token) :=
    match digitRun? 10 true cs with
    | some (ds, []) => some ('e' :: minus ++ ds, ts)
    | _ => none
  match suffix with
  | [] => some ([], ts)
  | c :: cs =>
    if c = 'e' ∨ c = 'E' then
      match cs, ts with
      | [], .plus :: .word w :: ts => whole [] w ts
      | [], .word w :: ts => whole [] w ts
      | [], _ => none
      | cs, ts => whole (sign cs).1 (sign cs).2 ts
    else none

/-- A real number: a word, and the word after the point if there is one. -/
def real? (word : List Char) (fraction : Option (List Char)) (ts : List Token) :
    Option (Json × List Token) := do
  let (minus, cs) := sign word
  let (ds, suffix) ← digitRun? 10 false cs
  match fraction with
  | none =>
    let (e, ts) ← exponent? suffix ts
    return (← finite? (minus ++ ds ++ e), ts)
  | some f =>
    if suffix ≠ [] then none
    let (fs, suffix) ← digitRun? 10 true f
    let (e, ts) ← exponent? suffix ts
    return (← finite? (minus ++ ds ++ '.' :: fs ++ e), ts)

/-- The value of a word that is one of the named numbers. -/
def named? (word : List Char) : Option Json :=
  if word = ['i', 'n', 'f'] then some (.real (1 / 0))
  else if word = ['-', 'i', 'n', 'f'] then some (.real (-(1 / 0)))
  else if word = ['n', 'a', 'n'] ∨ word = ['-', 'n', 'a', 'n'] then some (.real (0 / 0))
  else none

/-- The number that begins with a word, given the tokens after the word. -/
def number? (word : List Char) (ts : List Token) : Option (Json × List Token) :=
  match word with
  | '0' :: 'x' :: cs => (integer? 16 cs).map (·, ts)
  | '0' :: 'o' :: cs => (integer? 8 cs).map (·, ts)
  | '0' :: 'b' :: cs => (integer? 2 cs).map (·, ts)
  | _ =>
    if word.contains 'e' || word.contains 'E' then real? word none ts
    else match ts with
      | .period :: .word f :: ts => real? word (some f) ts
      | .period :: _ => none
      | ts => match named? word with
        | some v => some (v, ts)
        | none => (integer? 10 word).map (·, ts)

end BoomWalker.Toml
