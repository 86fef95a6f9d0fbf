/-
Reading records of known shape.

A record is written as an object, or as an array of its fields in order. An unknown field is
skipped and a repeated one refused. An optional field may be left out of an object, and then keeps
the value that the record starts from. Whether an array may end early is a matter of the record.
-/
import BoomWalker.Json.Reader

namespace BoomWalker.Json

/-- A field of a record: how to read its value into the record. -/
structure RecordField (ρ : Type) where
  name : String
  required : Bool
  read : ρ → Reader ρ

variable {ρ : Type}

/-- A field whose value is read on its own and then put into the record. -/
def RecordField.of {β : Type} (name : String) (required : Bool) (value : Reader β)
    (put : ρ → β → ρ) : RecordField ρ where
  name := name
  required := required
  read := fun r cs => do
    let (b, rest) ← value cs
    .ok (put r b, rest)

/-- Is every required field among the names? -/
def complete (fields : List (RecordField ρ)) (seen : List String) : Bool :=
  fields.all fun f => !f.required || seen.contains f.name

/-- The fields of an object, from a name on; `seen` are the names already read. -/
def readFields (fields : List (RecordField ρ)) : Nat → List String → ρ → Reader ρ
  | 0, _, _, _ => .error .endOfText
  | n + 1, seen, r, cs => do
    let (name, rest) ← readQuoted (← expectChar '"' cs)
    let (seen, r, rest) ← (match fields.find? (·.name == name) with
      | none => do .ok (seen, r, ← skipValue (← expectChar ':' rest))
      | some f => do
        if seen.contains name then .error .mismatch
        else
          let (r, rest) ← f.read r (← expectChar ':' rest)
          .ok (name :: seen, r, rest) : Except ReadError (List String × ρ × List Char))
    match skipBlank rest with
    | [] => .error .endOfText
    | ',' :: rest => readFields fields n seen r rest
    | '}' :: rest => if complete fields seen then .ok (r, rest) else .error .mismatch
    | _ :: _ => .error .malformed

/-- The fields of an array, in order, after the bracket or the comma before the next. Fields may be
missing at the end if `short` is set. -/
def readSequence (short : Bool) : List (RecordField ρ) → Bool → ρ → Reader ρ
  | [], first, r, cs =>
    match skipBlank cs with
    | [] => .error .endOfText
    | ']' :: rest => if first then .ok (r, rest) else .error .malformed
    | _ :: _ => .error .malformed
  | f :: fields, first, r, cs =>
    match skipBlank cs with
    | [] => .error .endOfText
    | ']' :: rest =>
      if ¬ first then .error .malformed
      else if short then .ok (r, rest)
      else .error .mismatch
    | _ :: _ => do
      let (r, rest) ← f.read r cs
      match skipBlank rest with
      | [] => .error .endOfText
      | ']' :: rest => if short || fields.isEmpty then .ok (r, rest) else .error .mismatch
      | ',' :: rest =>
        if fields.isEmpty then .error .malformed else readSequence short fields false r rest
      | _ :: _ => .error .malformed

/-- A record, starting from `r`. Its array may end early if `short` is set. -/
def readRecord (short : Bool) (fields : List (RecordField ρ)) (r : ρ) : Reader ρ := fun cs =>
  match skipBlank cs with
  | '{' :: rest =>
    match skipBlank rest with
    | [] => .error .endOfText
    | '}' :: rest => if complete fields [] then .ok (r, rest) else .error .mismatch
    | _ :: _ => readFields fields (rest.length + 1) [] r rest
  | '[' :: rest => readSequence short fields true r rest
  | cs => .error (mismatchAt cs)

end BoomWalker.Json
