/-
Reading JSON texts.

Readers work from left to right and stop at the first problem. Where a value of a certain shape is
wanted and another scalar stands there, that scalar is read to its end first, so that a text which
is no JSON is told from one of the wrong shape.
-/
import BoomWalker.Json.Numeral
import BoomWalker.Json.Quoted

namespace BoomWalker.Json

def isBlank (c : Char) : Bool := c = ' ' ∨ c = '\n' ∨ c = '\t' ∨ c = '\r'

def skipBlank (cs : List Char) : List Char := cs.dropWhile isBlank

/-- The given letters, after the first letter of a word. -/
def expectLetters : List Char → List Char → Except ReadError (List Char)
  | [], cs => .ok cs
  | _ :: _, [] => .error .endOfText
  | l :: ls, c :: cs => if l = c then expectLetters ls cs else .error .malformed

/-- The problem with the value at the front of a text, where one of another shape is wanted. -/
def mismatchAt (cs : List Char) : ReadError :=
  let after {β : Type} (r : Except ReadError β) : ReadError :=
    match r with
    | .error e => e
    | .ok _ => .mismatch
  match cs with
  | [] => .endOfText
  | 'n' :: rest => after (expectLetters ['u', 'l', 'l'] rest)
  | 't' :: rest => after (expectLetters ['r', 'u', 'e'] rest)
  | 'f' :: rest => after (expectLetters ['a', 'l', 's', 'e'] rest)
  | '-' :: rest => after (readUnsigned true rest)
  | '"' :: rest => after (readQuoted rest)
  | '[' :: _ => .mismatch
  | '{' :: _ => .mismatch
  | c :: rest => if c.isDigit then after (readUnsigned false (c :: rest)) else .malformed

/-! ## Scalars -/

def readBool : Reader Bool := fun cs =>
  match skipBlank cs with
  | 't' :: rest => do .ok (true, ← expectLetters ['r', 'u', 'e'] rest)
  | 'f' :: rest => do .ok (false, ← expectLetters ['a', 'l', 's', 'e'] rest)
  | cs => .error (mismatchAt cs)

def readNumeral : Reader Numeral := fun cs =>
  match skipBlank cs with
  | '-' :: rest => readUnsigned true rest
  | c :: rest =>
    if c.isDigit then readUnsigned false (c :: rest) else .error (mismatchAt (c :: rest))
  | [] => .error .endOfText

/-- Any number, as a real. -/
def readReal : Reader Float := fun cs => do
  match ← readNumeral cs with
  | (.natural n, rest) => .ok (Float.ofNat n, rest)
  | (.negative n, rest) => .ok (Float.ofInt n, rest)
  | (.real x, rest) => .ok (x, rest)

/-- A number written as an integer, at most `max`. -/
def readNatural (max : Nat) : Reader Nat := fun cs => do
  match ← readNumeral cs with
  | (.natural n, rest) => if n ≤ max then .ok (n, rest) else .error .mismatch
  | _ => .error .mismatch

def readString : Reader String := fun cs =>
  match skipBlank cs with
  | '"' :: rest => readQuoted rest
  | cs => .error (mismatchAt cs)

/-! ## Skipping -/

/-- What stands at a place of a container, other than the end of the text. -/
def expectChar (c : Char) (cs : List Char) : Except ReadError (List Char) :=
  match skipBlank cs with
  | [] => .error .endOfText
  | d :: rest => if d = c then .ok rest else .error .malformed

/-- Skip the name of a field and its colon. -/
def skipName (cs : List Char) : Except ReadError (List Char) := do
  expectChar ':' (← skipQuoted (← expectChar '"' cs))

/-- Skip the parts of a container up to its closing character, given how to skip one part. -/
def skipParts (part : List Char → Except ReadError (List Char)) (close : Char) :
    Nat → List Char → Except ReadError (List Char)
  | 0, _ => .error .endOfText
  | n + 1, cs => do
    match skipBlank (← part cs) with
    | [] => .error .endOfText
    | ',' :: rest => skipParts part close n rest
    | c :: rest => if c = close then .ok rest else .error .malformed

/-- Skip a container after its opening character. -/
def skipContainer (part : List Char → Except ReadError (List Char)) (close : Char)
    (cs : List Char) : Except ReadError (List Char) :=
  match skipBlank cs with
  | [] => .error .endOfText
  | c :: rest => if c = close then .ok rest else skipParts part close (cs.length + 1) cs

/-- Skip a value of any shape and depth; the bound is at least the length of the text. -/
def skipWithin : Nat → List Char → Except ReadError (List Char)
  | 0, _ => .error .endOfText
  | n + 1, cs =>
    match skipBlank cs with
    | [] => .error .endOfText
    | 'n' :: rest => expectLetters ['u', 'l', 'l'] rest
    | 't' :: rest => expectLetters ['r', 'u', 'e'] rest
    | 'f' :: rest => expectLetters ['a', 'l', 's', 'e'] rest
    | '-' :: rest => skipUnsigned rest
    | '"' :: rest => skipQuoted rest
    | '[' :: rest => skipContainer (skipWithin n) ']' rest
    | '{' :: rest => skipContainer (fun cs => do skipWithin n (← skipName cs)) '}' rest
    | c :: rest => if c.isDigit then skipUnsigned (c :: rest) else .error .malformed

/-- Skip a value of any shape and depth. -/
def skipValue (cs : List Char) : Except ReadError (List Char) := skipWithin (cs.length + 1) cs

/-! ## Values -/

/-- A part of a container and the character after it. -/
def readParts {β : Type} (part : Reader β) (close : Char) : Nat → Reader (List β)
  | 0, _ => .error .endOfText
  | n + 1, cs => do
    let (b, rest) ← part cs
    match skipBlank rest with
    | [] => .error .endOfText
    | ',' :: rest =>
      let (bs, rest) ← readParts part close n rest
      .ok (b :: bs, rest)
    | c :: rest => if c = close then .ok ([b], rest) else .error .malformed

/-- The parts of a container after its opening character. -/
def readContainer {β : Type} (part : Reader β) (close : Char) : Reader (List β) := fun cs =>
  match skipBlank cs with
  | [] => .error .endOfText
  | c :: rest => if c = close then .ok ([], rest) else readParts part close (cs.length + 1) cs

/-- The name of a field and its colon. -/
def readName : Reader String := fun cs => do
  let (name, rest) ← readQuoted (← expectChar '"' cs)
  .ok (name, ← expectChar ':' rest)

/-- A value of any shape in which containers are nested at most `room` deep. -/
def readValue : Nat → Reader Json
  | room, cs =>
    match skipBlank cs with
    | [] => .error .endOfText
    | 'n' :: rest => do .ok (.null, ← expectLetters ['u', 'l', 'l'] rest)
    | 't' :: rest => do .ok (.bool true, ← expectLetters ['r', 'u', 'e'] rest)
    | 'f' :: rest => do .ok (.bool false, ← expectLetters ['a', 'l', 's', 'e'] rest)
    | '"' :: rest => do
      let (s, rest) ← readQuoted rest
      .ok (.str s, rest)
    | '[' :: rest =>
      match room with
      | 0 => .error .malformed
      | room + 1 => do
        let (items, rest) ← readContainer (readValue room) ']' rest
        .ok (.arr items, rest)
    | '{' :: rest =>
      match room with
      | 0 => .error .malformed
      | room + 1 => do
        let member : Reader (String × Json) := fun cs => do
          let (name, rest) ← readName cs
          let (v, rest) ← readValue room rest
          .ok ((name, v), rest)
        let (fields, rest) ← readContainer member '}' rest
        .ok (.obj fields, rest)
    | c :: rest =>
      if c = '-' ∨ c.isDigit then do
        match ← readNumeral (c :: rest) with
        | (.natural n, rest) => .ok (.int n, rest)
        | (.negative n, rest) => .ok (.int n, rest)
        | (.real x, rest) => .ok (.real x, rest)
      else .error .malformed

/-- How deep containers may be nested in a text. -/
def maxDepth : Nat := 127

/-- A whole text: nothing but blanks may follow the value. -/
def readAll {β : Type} (r : Reader β) (text : String) : Except ReadError β := do
  let (b, rest) ← r text.toList
  match skipBlank rest with
  | [] => .ok b
  | _ :: _ => .error .malformed

/-- A text as a value of any shape. -/
def parse (text : String) : Except ReadError Json := readAll (readValue maxDepth) text

end BoomWalker.Json
