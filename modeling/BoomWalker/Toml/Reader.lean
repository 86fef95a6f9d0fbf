/-
Reading parameter files in TOML.

A date is read only as far as needed to find its end, and stands for `null`, as no parameter is a
date.
-/
import BoomWalker.Toml.Number
import BoomWalker.Toml.Table

namespace BoomWalker.Toml

/-! ## Gaps and keys -/

def skipBlank : List Token → List Token
  | .blank _ :: ts => skipBlank ts
  | ts => ts

/-- The end of a line: blanks, a comment, a line end or the end of the file. -/
def endLine? (ts : List Token) : Option (List Token) :=
  match skipBlank ts with
  | [] => some []
  | .newline :: ts => some ts
  | [.comment] => some []
  | .comment :: .newline :: ts => some ts
  | _ => none

/-- Skip blanks, comments and line ends. -/
def skipGap? : List Token → Option (List Token)
  | .blank _ :: ts => skipGap? ts
  | .newline :: ts => skipGap? ts
  | [.comment] => some []
  | .comment :: .newline :: ts => skipGap? ts
  | .comment :: _ => none
  | ts => some ts

def expect? (t : Token) : List Token → Option (List Token)
  | [] => none
  | u :: ts => if u = t then some ts else none

/-- One part of a key. -/
def part? : List Token → Option (String × List Token)
  | .word w :: ts => some (String.ofList w, ts)
  | .text s false :: ts => some (s, ts)
  | _ => none

/-- The parts of a key, and the tokens after it and the blanks behind it; the bound is at least the
number of tokens. -/
def key? : Nat → List Token → Option (List String × List Token)
  | 0, _ => none
  | n + 1, ts => do
    let (k, rest) ← part? ts
    match skipBlank rest with
    | .period :: rest =>
      let (ks, rest) ← key? n (skipBlank rest)
      return (k :: ks, rest)
    | rest => return ([k], rest)

/-! ## Values -/

/-- The rest of a date: a time after a single space, and the time's parts. -/
def date? (timed : Bool) (ts : List Token) : Option (List Token) :=
  let ts := match ts with
    | .blank true :: .word _ :: rest => rest
    | ts => ts
  let time? : List Token → Option (List Token)
    | .word _ :: .colon :: .word _ :: rest => do
      let rest ← match rest with
        | .period :: .word _ :: rest => some rest
        | .period :: _ => none
        | rest => some rest
      let rest ← match rest with
        | .plus :: .word _ :: rest => some rest
        | .plus :: _ => none
        | rest => some rest
      match rest with
      | .colon :: .word _ :: rest => some rest
      | .colon :: _ => none
      | rest => some rest
    | _ => none
  if timed then time? ts
  else match ts with
    | .colon :: ts => time? ts
    | ts => some ts

/-- Does one word stand in another? -/
def isPart (part : List Char) : List Char → Bool
  | [] => part = []
  | c :: cs => part.isPrefixOf (c :: cs) || isPart part cs

/-- Does the word look like a date? -/
def isDate (w : List Char) : Bool :=
  w.contains 'T' || w.contains 't' ||
    (w.tail.contains '-' && !isPart ['e', '-'] w && !isPart ['E', '-'] w)

/-- The value that begins with a word, given the tokens after the word. -/
def wordValue? (w : List Char) (ts : List Token) : Option (Json × List Token) :=
  if w = ['t', 'r', 'u', 'e'] then some (.bool true, ts)
  else if w = ['f', 'a', 'l', 's', 'e'] then some (.bool false, ts)
  else if (named? w).isSome ∨ w.head?.any (fun c => c = '-' ∨ isDigitOf 10 c) then
    if isDate w then (date? false ts).map (.null, ·)
    else match ts with
      | .colon :: ts => (date? true ts).map (.null, ·)
      | ts => number? w ts
  else none

/-- The items of an array after its opening bracket, given how to read one. -/
def arrayItems (item : List Token → Option (Json × List Token)) :
    Nat → List Token → Option (List Json × List Token)
  | 0, _ => none
  | n + 1, ts => do
    match ← skipGap? ts with
    | .rightBracket :: ts => return ([], ts)
    | ts =>
      let (v, ts) ← item ts
      match ← skipGap? ts with
      | .comma :: ts =>
        let (vs, ts) ← arrayItems item n ts
        return (v :: vs, ts)
      | .rightBracket :: ts => return ([v], ts)
      | _ => none

/-- A key, an equals sign and a value, given how to read the value. -/
def entry? (item : List Token → Option (Json × List Token)) (ts : List Token) :
    Option (Entry × List Token) := do
  let (path, ts) ← key? (ts.length + 1) ts
  let ts ← expect? .equals ts
  let (v, ts) ← item (skipBlank ts)
  return (⟨path, v⟩, ts)

/-- The entries of a record in braces, which has at least one. -/
def braceEntries (item : List Token → Option (Json × List Token)) :
    Nat → List Token → Option (List Entry × List Token)
  | 0, _ => none
  | n + 1, ts => do
    let (e, ts) ← entry? item ts
    match skipBlank ts with
    | .rightBrace :: ts => return ([e], ts)
    | .comma :: ts =>
      let (es, ts) ← braceEntries item n (skipBlank ts)
      return (e :: es, ts)
    | _ => none

/-- A value; the bound is at least the number of tokens. -/
def valueWithin : Nat → List Token → Option (Json × List Token)
  | 0, _ => none
  | _ + 1, [] => none
  | n + 1, t :: ts =>
    match t with
    | .text s _ => some (.str s, ts)
    | .word w => wordValue? w ts
    | .plus =>
      match ts with
      | .word w :: ts => number? w ts
      | _ => none
    | .leftBracket => do
      let (items, ts) ← arrayItems (valueWithin n) (ts.length + 1) ts
      return (.arr items, ts)
    | .leftBrace => do
      match skipBlank ts with
      | .rightBrace :: ts => return (.obj [], ts)
      | ts =>
        let (entries, ts) ← braceEntries (valueWithin n) (ts.length + 1) ts
        return (.obj (← nestAll entries), ts)
    | _ => none

def value? (ts : List Token) : Option (Json × List Token) := valueWithin (ts.length + 1) ts

/-! ## Files -/

/-- A line that holds something. -/
inductive Line where
  | header (path : List String) (item : Bool)
  | entry (e : Entry)

/-- A header after its opening bracket, and the end of its line. -/
def header? (ts : List Token) : Option (Line × List Token) := do
  let (item, ts) := match ts with
    | .leftBracket :: ts => (true, ts)
    | ts => (false, ts)
  let ts := skipBlank ts
  let (path, ts) ← key? (ts.length + 1) ts
  let ts ← expect? .rightBracket ts
  let ts ← if item then expect? .rightBracket ts else some ts
  return (.header path item, ← endLine? ts)

/-- The line at the front of the tokens. -/
def line? : List Token → Option (Line × List Token)
  | .leftBracket :: ts => header? ts
  | ts => do
    let (e, ts) ← entry? value? ts
    return (.entry e, ← endLine? ts)

/-- The lines of a file; the bound is at least the number of tokens. -/
def lines? : Nat → List Token → Option (List Line)
  | 0, _ => none
  | n + 1, ts => do
    match ← skipGap? ts with
    | [] => return []
    | ts =>
      let (l, ts) ← line? ts
      return l :: (← lines? n ts)

/-- The entries before the next header, and the lines from there on. -/
def spanEntries : List Line → List Entry × List Line
  | .entry e :: ls => ((e :: (spanEntries ls).1), (spanEntries ls).2)
  | ls => ([], ls)

/-- The tables under the headers of a file. -/
def sections? : Nat → List Line → Option (List Table)
  | 0, _ => none
  | _ + 1, [] => some []
  | n + 1, .entry _ :: ls => sections? n ls
  | n + 1, .header path item :: ls => do
    let (entries, rest) := spanEntries ls
    return ⟨path, item, ← nestAll entries⟩ :: (← sections? n rest)

/-- The tables of a file. -/
def tables? (ls : List Line) : Option (List Table) := do
  let (entries, rest) := spanEntries ls
  let sections ← sections? (rest.length + 1) rest
  if entries.isEmpty then return sections
  else return ⟨[], false, ← nestAll entries⟩ :: sections

/-- A text as a record, unless it is not well formed. -/
def parse (s : String) : Option Json := do
  let ts ← tokens? s
  assemble (← tables? (← lines? (ts.length + 1) ts))

end BoomWalker.Toml
