/-
Tables: how keys and headers with several parts make up nested records.

A record keeps every field in order, also one that occurs twice.
-/
import BoomWalker.Json.Basic

namespace BoomWalker.Toml

/-- A value under a key of one or more parts. -/
structure Entry where
  path : List String
  value : Json

/-- The entries whose keys have further parts after `k`, without `k`. -/
def Entry.below (k : String) (entries : List Entry) : List Entry :=
  entries.filterMap fun e =>
    match e.path with
    | p :: q :: path => if p = k then some ⟨q :: path, e.value⟩ else none
    | _ => none

/-- Has the key further parts after `k`? -/
def Entry.isBelow (k : String) (e : Entry) : Bool := 2 ≤ e.path.length && e.path.head? = some k

/-- The fields that entries make up. Keys that share their first part share a record; a value that
was given first is not extended. The bound is at least the number of parts of all keys. -/
def nest : Nat → List Entry → Option (List (String × Json))
  | _, [] => some []
  | 0, _ :: _ => none
  | n + 1, e :: rest =>
    match e.path with
    | [] => none
    | [k] =>
      if rest.any (Entry.isBelow k) then none
      else do return (k, e.value) :: (← nest n rest)
    | k :: _ => do
      let inner ← nest n (Entry.below k (e :: rest))
      let outer ← nest n (rest.filter fun e => !Entry.isBelow k e)
      return (k, .obj inner) :: outer

/-- The fields that entries make up. -/
def nestAll (entries : List Entry) : Option (List (String × Json)) :=
  nest (entries.foldl (fun n e => n + e.path.length) 0) entries

/-- A table under a header. The table in front of all headers has an empty one. -/
structure Table where
  header : List String
  /-- Is the table an item of an array of tables? -/
  item : Bool
  fields : List (String × Json)

/-- Group tables by the part of the header at a depth, in the order in which the parts occur. -/
def groups (depth : Nat) (tables : List Table) : List (String × List Table) :=
  let names := (tables.filterMap (·.header[depth]?)).foldl
    (fun names k => if names.contains k then names else names ++ [k]) []
  names.map fun k => (k, tables.filter (·.header[depth]? = some k))

/-- Does the table begin an item of the array at a depth? -/
def Table.begins (depth : Nat) (t : Table) : Bool := t.item && t.header.length = depth + 1

/-- Split the tables of an array into its items: the table that begins an item, and the tables up
to the next. -/
def items (depth : Nat) : List Table → List (Table × List Table)
  | [] => []
  | t :: ts =>
    if t.begins depth then (t, ts.takeWhile (!·.begins depth)) :: items depth ts
    else items depth ts

/-- The fields that tables make up below a depth. No two tables have one header, except the items of
an array, and no array is added to tables that stand before it. The bound is at least the number of
parts of every header. -/
def fieldsBelow : Nat → Nat → List Table → Option (List (String × Json))
  | 0, _, _ => none
  | n + 1, depth, tables => do
    let (own, deeper) := tables.partition (·.header.length = depth)
    let own ← match own with
      | [] => some []
      | [t] => if t.item then none else some t.fields
      | _ => none
    let values ← (groups depth deeper).mapM fun (k, ts) => do
      match ts with
      | [] => none
      | t :: _ =>
        if t.begins depth then
          let values ← (items depth ts).mapM fun (head, rest) => do
            if rest.any (·.header.length = depth + 1) then none
            let inner ← fieldsBelow n (depth + 1) rest
            return Json.obj (head.fields ++ inner)
          return (k, Json.arr values)
        else return (k, Json.obj (← fieldsBelow n (depth + 1) ts))
    return own ++ values

/-- The record that the tables of a file make up. -/
def assemble (tables : List Table) : Option Json := do
  let depth := (tables.map (·.header.length)).foldl max 0
  return .obj (← fieldsBelow (depth + 1) 0 tables)

end BoomWalker.Toml
