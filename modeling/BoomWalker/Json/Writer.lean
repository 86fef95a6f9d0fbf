/-
Writing JSON texts, without blanks. A number that is not finite has no text in JSON and is written
as `null`.
-/
import BoomWalker.Decimal.Plain
import BoomWalker.Json.Quoted

namespace BoomWalker.Json

def writeReal (x : Float) : List Char :=
  if x.isNaN || x.isInf then ['n', 'u', 'l', 'l'] else Decimal.numeral x

def writeInt (n : Int) : List Char :=
  if n < 0 then '-' :: Nat.toDigits 10 n.natAbs else Nat.toDigits 10 n.natAbs

mutual

/-- The text of a value. -/
def write : Json → List Char
  | .null => ['n', 'u', 'l', 'l']
  | .bool true => ['t', 'r', 'u', 'e']
  | .bool false => ['f', 'a', 'l', 's', 'e']
  | .int n => writeInt n
  | .real x => writeReal x
  | .str s => writeQuoted s
  | .arr [] => ['[', ']']
  | .arr (v :: vs) => '[' :: write v ++ writeItems vs
  | .obj [] => ['{', '}']
  | .obj ((name, v) :: fields) =>
    '{' :: writeQuoted name ++ ':' :: write v ++ writeMembers fields

/-- The remaining items of an array and its end. -/
def writeItems : List Json → List Char
  | [] => [']']
  | v :: vs => ',' :: write v ++ writeItems vs

/-- The remaining fields of an object and its end. -/
def writeMembers : List (String × Json) → List Char
  | [] => ['}']
  | (name, v) :: fields => ',' :: writeQuoted name ++ ':' :: write v ++ writeMembers fields

end

/-- The text of a value. -/
def render (v : Json) : String := String.ofList v.write

end BoomWalker.Json
