/-
Strings in JSON texts. A string is read after its opening quote.

Two readers walk over a string. The one that keeps the text demands that escaped surrogates come in
pairs; the one that skips a string looks only for its end.
-/
import BoomWalker.Json.Basic
import BoomWalker.Text.Hex

namespace BoomWalker.Json

/-- Number of bytes of a text in UTF-8. -/
def byteLength (cs : List Char) : Nat := cs.foldl (fun n c => n + c.utf8Size) 0

/-- Four hexadecimal digits. They occupy four bytes: a text with fewer bytes left has ended. -/
def readHex4 : Reader Nat
  | a :: b :: c :: d :: rest =>
    match Hex.value? a, Hex.value? b, Hex.value? c, Hex.value? d with
    | some w, some x, some y, some z => .ok (((w * 16 + x) * 16 + y) * 16 + z, rest)
    | _, _, _, _ =>
      if byteLength (a :: b :: c :: d :: rest) < 4 then .error .endOfText else .error .malformed
  | cs => if byteLength cs < 4 then .error .endOfText else .error .malformed

/-- The character of a one-letter escape. -/
def escapedChar? : Char → Option Char
  | '"' => some '"'
  | '\\' => some '\\'
  | '/' => some '/'
  | 'b' => some '\x08'
  | 'f' => some '\x0c'
  | 'n' => some '\n'
  | 'r' => some '\r'
  | 't' => some '\t'
  | _ => none

/-- A character given by its code, after the letter of the escape. A code in the upper range is the
first half of a pair. -/
def readUnicode (cs : List Char) : Except ReadError (Char × List Char) := do
  let (hi, rest) ← readHex4 cs
  if 0xDC00 ≤ hi ∧ hi ≤ 0xDFFF then .error .malformed
  else if hi < 0xD800 ∨ 0xDBFF < hi then .ok (Char.ofNat hi, rest)
  else match rest with
    | [] => .error .endOfText
    | '\\' :: [] => .error .endOfText
    | '\\' :: 'u' :: rest =>
      let (lo, rest) ← readHex4 rest
      if 0xDC00 ≤ lo ∧ lo ≤ 0xDFFF then
        .ok (Char.ofNat ((hi - 0xD800) * 0x400 + (lo - 0xDC00) + 0x10000), rest)
      else .error .malformed
    | _ => .error .malformed

/-- The characters of a string up to its closing quote; the bound is at least the length of the
text. -/
def readQuotedWithin : Nat → List Char → Except ReadError (List Char × List Char)
  | 0, _ => .error .endOfText
  | _ + 1, [] => .error .endOfText
  | _ + 1, '"' :: rest => .ok ([], rest)
  | _ + 1, '\\' :: [] => .error .endOfText
  | n + 1, '\\' :: 'u' :: rest => do
    let (c, rest) ← readUnicode rest
    let (cs, rest) ← readQuotedWithin n rest
    .ok (c :: cs, rest)
  | n + 1, '\\' :: e :: rest =>
    match escapedChar? e with
    | none => .error .malformed
    | some c => do
      let (cs, rest) ← readQuotedWithin n rest
      .ok (c :: cs, rest)
  | n + 1, c :: rest =>
    if c < ' ' then .error .malformed
    else do
      let (cs, rest) ← readQuotedWithin n rest
      .ok (c :: cs, rest)

/-- A string after its opening quote. -/
def readQuoted : Reader String := fun cs => do
  let (text, rest) ← readQuotedWithin (cs.length + 1) cs
  .ok (String.ofList text, rest)

/-- Skip a string up to its closing quote; the bound is at least the length of the text. -/
def skipQuotedWithin : Nat → List Char → Except ReadError (List Char)
  | 0, _ => .error .endOfText
  | _ + 1, [] => .error .endOfText
  | _ + 1, '"' :: rest => .ok rest
  | _ + 1, '\\' :: [] => .error .endOfText
  | n + 1, '\\' :: 'u' :: rest => do
    let (_, rest) ← readHex4 rest
    skipQuotedWithin n rest
  | n + 1, '\\' :: e :: rest =>
    match escapedChar? e with
    | none => .error .malformed
    | some _ => skipQuotedWithin n rest
  | n + 1, c :: rest => if c < ' ' then .error .malformed else skipQuotedWithin n rest

/-- Skip a string after its opening quote. -/
def skipQuoted (cs : List Char) : Except ReadError (List Char) :=
  skipQuotedWithin (cs.length + 1) cs

/-- One character as it is written inside a string. -/
def escape (c : Char) : List Char :=
  if c = '"' then ['\\', '"']
  else if c = '\\' then ['\\', '\\']
  else if c = '\x08' then ['\\', 'b']
  else if c = '\x0c' then ['\\', 'f']
  else if c = '\n' then ['\\', 'n']
  else if c = '\r' then ['\\', 'r']
  else if c = '\t' then ['\\', 't']
  else if c < ' ' then
    ['\\', 'u', '0', '0', Hex.digit (c.toNat / 16), Hex.digit (c.toNat % 16)]
  else [c]

/-- A string with its quotes. -/
def writeQuoted (s : String) : List Char := '"' :: s.toList.flatMap escape ++ ['"']

end BoomWalker.Json
