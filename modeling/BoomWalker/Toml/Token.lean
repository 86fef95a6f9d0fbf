/-
Tokens of parameter files in TOML.

A text is a byte order mark, if any, and then tokens. Line ends may be written in two ways; they
are made one before the tokens are read.
-/
import BoomWalker.Text.Hex

namespace BoomWalker.Toml

inductive Token where
  | newline
  | comment
  /-- A run of blanks; the flag is set for a single space. -/
  | blank (space : Bool)
  | equals
  | period
  | comma
  | colon
  | plus
  | leftBrace
  | rightBrace
  | leftBracket
  | rightBracket
  /-- A run of letters, digits, hyphens and underscores. -/
  | word (cs : List Char)
  /-- A string in quotes. -/
  | text (s : String) (multiline : Bool)
deriving DecidableEq, Repr

/-- Make every line end a single character. -/
def unifyLines : List Char → List Char
  | '\r' :: '\n' :: cs => '\n' :: unifyLines cs
  | c :: cs => c :: unifyLines cs
  | [] => []

/-! ## Classes of characters -/

def isBlank (c : Char) : Bool := c = ' ' ∨ c = '\t'

def isGap (c : Char) : Bool := isBlank c || c = '\n'

def isWordChar (c : Char) : Bool :=
  c.isAlphanum ∨ c = '-' ∨ c = '_'

/-- May the character stand in a comment? -/
def isCommentChar (c : Char) : Bool := c = '\t' ∨ ' ' ≤ c

/-- May the character stand in a string? -/
def isTextChar (c : Char) : Bool := isCommentChar c && c ≠ '\x7f'

/-! ## Strings -/

/-- The character of a one-letter escape. -/
def escapedChar? : Char → Option Char
  | '"' => some '"'
  | '\\' => some '\\'
  | 'b' => some '\x08'
  | 'f' => some '\x0c'
  | 'n' => some '\n'
  | 'r' => some '\r'
  | 't' => some '\t'
  | _ => none

/-- A number of hexadecimal digits. -/
def hex? : Nat → Nat → List Char → Option (Nat × List Char)
  | 0, n, cs => some (n, cs)
  | _ + 1, _, [] => none
  | k + 1, n, c :: cs => do hex? k (n * 16 + (← Hex.value? c)) cs

/-- The character with the code that a number of hexadecimal digits spell. -/
def code? (digits : Nat) (cs : List Char) : Option (List Char × List Char) := do
  let (n, rest) ← hex? digits 0 cs
  if n.isValidChar then some ([Char.ofNat n], rest) else none

/-- What an escape stands for, after its backslash. In a string of many lines a backslash at the end
of a line stands for nothing and takes the gap after it away. -/
def escape? (multiline : Bool) : List Char → Option (List Char × List Char)
  | [] => none
  | 'u' :: cs => code? 4 cs
  | 'U' :: cs => code? 8 cs
  | c :: cs =>
    match escapedChar? c with
    | some d => some ([d], cs)
    | none =>
      if multiline then
        match (c :: cs).dropWhile isBlank with
        | '\n' :: rest => some ([], rest.dropWhile isGap)
        | _ => none
      else none

/-- The contents of a string up to its closing quotes; the bound is at least the length of the text.
A string of many lines ends with three quotes, before which up to two more may stand. -/
def textWithin (quote : Char) (multiline : Bool) :
    Nat → List Char → Option (List Char × List Char)
  | 0, _ => none
  | _ + 1, [] => none
  | n + 1, c :: cs =>
    if c = quote then
      if multiline then
        let run := min 5 ((c :: cs).takeWhile (· = quote)).length
        if 3 ≤ run then some (List.replicate (run - 3) quote, (c :: cs).drop run)
        else (textWithin quote multiline n cs).map fun (more, rest) => (c :: more, rest)
      else some ([], cs)
    else if c = '\\' ∧ quote = '"' then do
      let (part, rest) ← escape? multiline cs
      let (more, rest) ← textWithin quote multiline n rest
      some (part ++ more, rest)
    else if isTextChar c ∨ multiline ∧ c = '\n' then
      (textWithin quote multiline n cs).map fun (more, rest) => (c :: more, rest)
    else none

/-- A string after its first quote. The first line end of a string of many lines is dropped. -/
def text? (quote : Char) (cs : List Char) : Option (Token × List Char) :=
  let read (multiline : Bool) (cs : List Char) : Option (Token × List Char) := do
    let (contents, rest) ← textWithin quote multiline (cs.length + 1) cs
    some (.text (String.ofList contents) multiline, rest)
  match cs with
  | a :: b :: rest =>
    if a = quote ∧ b = quote then
      match rest with
      | '\n' :: rest => read true rest
      | rest => read true rest
    else if a = quote then some (.text "" false, b :: rest)
    else read false cs
  | [a] => if a = quote then some (.text "" false, []) else none
  | [] => none

/-! ## Tokens -/

/-- The token at the front of a text. -/
def token? (c : Char) (cs : List Char) : Option (Token × List Char) :=
  match c with
  | '\n' => some (.newline, cs)
  | '#' => some (.comment, cs.dropWhile isCommentChar)
  | '=' => some (.equals, cs)
  | '.' => some (.period, cs)
  | ',' => some (.comma, cs)
  | ':' => some (.colon, cs)
  | '+' => some (.plus, cs)
  | '{' => some (.leftBrace, cs)
  | '}' => some (.rightBrace, cs)
  | '[' => some (.leftBracket, cs)
  | ']' => some (.rightBracket, cs)
  | '\'' => text? '\'' cs
  | '"' => text? '"' cs
  | c =>
    if isBlank c then
      some (.blank (c = ' ' ∧ (cs.takeWhile isBlank) = []), cs.dropWhile isBlank)
    else if isWordChar c then some (.word (c :: cs.takeWhile isWordChar), cs.dropWhile isWordChar)
    else none

/-- The tokens of a text; the bound is at least its length. -/
def tokensWithin : Nat → List Char → Option (List Token)
  | _, [] => some []
  | 0, _ :: _ => none
  | n + 1, c :: cs => do
    let (t, rest) ← token? c cs
    return t :: (← tokensWithin n rest)

/-- The tokens of a text, unless a character fits none. -/
def tokens? (s : String) : Option (List Token) :=
  let cs := match s.toList with
    | '\ufeff' :: cs => cs
    | cs => cs
  let cs := unifyLines cs
  tokensWithin cs.length cs

end BoomWalker.Toml
