/-
Values of any shape, written and read.

A value comes back from its text as it was written (`readValue_write`): a number that has no numeral
was written as `null`, and everything else is as it was. The reader nests containers to a bound and
keeps integers of 64 bits apart from other numbers, so the value has to fit (`Fits`), and its numbers
have to come back from their numerals.
-/
import BoomWalker.Proofs.Json.Members
import Mathlib.Data.List.DropRight

namespace BoomWalker.Json

variable {room bound : Nat} {rest : List Char}

/-! ## What a text holds -/

mutual

/-- A value as its text tells it: a number without a numeral is told as `null`. -/
def asWritten : Json → Json
  | .null => .null
  | .bool b => .bool b
  | .int n => .int n
  | .real x => if x.isNaN || x.isInf then .null else .real x
  | .str s => .str s
  | .arr items => .arr (asWrittenItems items)
  | .obj fields => .obj (asWrittenMembers fields)

def asWrittenItems : List Json → List Json
  | [] => []
  | v :: vs => v.asWritten :: asWrittenItems vs

def asWrittenMembers : List (String × Json) → List (String × Json)
  | [] => []
  | (name, v) :: fields => (name, v.asWritten) :: asWrittenMembers fields

end

theorem asWritten_arr (items : List Json) : (arr items).asWritten = arr (items.map asWritten) := by
  rw [asWritten]
  congr 1
  induction items with
  | nil => rfl
  | cons v vs ih => rw [asWrittenItems, List.map_cons, ih]

theorem asWritten_obj (fields : List (String × Json)) :
    (obj fields).asWritten = obj (fields.map fun f => (f.1, f.2.asWritten)) := by
  rw [asWritten]
  congr 1
  induction fields with
  | nil => rfl
  | cons f fields ih => rw [asWrittenMembers, List.map_cons, ih]

mutual

/-- The numbers that stand in a value, integers apart. -/
def reals : Json → List Float
  | .null => []
  | .bool _ => []
  | .int _ => []
  | .real x => [x]
  | .str _ => []
  | .arr items => realsItems items
  | .obj fields => realsMembers fields

def realsItems : List Json → List Float
  | [] => []
  | v :: vs => v.reals ++ realsItems vs

def realsMembers : List (String × Json) → List Float
  | [] => []
  | (_, v) :: fields => v.reals ++ realsMembers fields

end

theorem reals_arr (items : List Json) : (arr items).reals = items.flatMap reals := by
  rw [reals]
  induction items with
  | nil => rfl
  | cons v vs ih => rw [realsItems, List.flatMap_cons, ih]

theorem reals_obj (fields : List (String × Json)) :
    (obj fields).reals = fields.flatMap fun f => f.2.reals := by
  rw [reals]
  induction fields with
  | nil => rfl
  | cons f fields ih => rw [realsMembers, List.flatMap_cons, ih]

theorem mem_reals_arr {items : List Json} {v : Json} (hv : v ∈ items) {x : Float}
    (hx : x ∈ v.reals) : x ∈ (arr items).reals := by
  rw [reals_arr]
  exact List.mem_flatMap_of_mem hv hx

theorem mem_reals_obj {fields : List (String × Json)} {f : String × Json} (hf : f ∈ fields)
    {x : Float} (hx : x ∈ f.2.reals) : x ∈ (obj fields).reals := by
  rw [reals_obj]
  exact List.mem_flatMap_of_mem hf hx

/-- Containers are nested at most `room` deep, and every integer is a natural number up to the
bound. -/
inductive Fits (bound : Nat) : Nat → Json → Prop
  | null {room : Nat} : Fits bound room .null
  | bool {room : Nat} (b : Bool) : Fits bound room (.bool b)
  | int {room n : Nat} (hn : n ≤ bound) : Fits bound room (.int n)
  | real {room : Nat} (x : Float) : Fits bound room (.real x)
  | str {room : Nat} (s : String) : Fits bound room (.str s)
  | arr {room : Nat} {items : List Json} (h : ∀ v ∈ items, Fits bound room v) :
      Fits bound (room + 1) (.arr items)
  | obj {room : Nat} {fields : List (String × Json)} (h : ∀ f ∈ fields, Fits bound room f.2) :
      Fits bound (room + 1) (.obj fields)

theorem Fits.mono {v : Json} (h : Fits bound room v) {bound' room' : Nat} (hbound : bound ≤ bound')
    (hroom : room ≤ room') : Fits bound' room' v := by
  induction h generalizing room' with
  | null => exact .null
  | bool b => exact .bool b
  | int hn => exact .int (hn.trans hbound)
  | real x => exact .real x
  | str s => exact .str s
  | arr h ih =>
    obtain ⟨room', rfl⟩ := Nat.exists_eq_add_one_of_ne_zero (Nat.ne_zero_of_lt hroom)
    exact .arr fun v hv => ih v hv (Nat.le_of_succ_le_succ hroom)
  | obj h ih =>
    obtain ⟨room', rfl⟩ := Nat.exists_eq_add_one_of_ne_zero (Nat.ne_zero_of_lt hroom)
    exact .obj fun f hf => ih f hf (Nat.le_of_succ_le_succ hroom)

@[simp] theorem fits_bool (b : Bool) : Fits bound room (.bool b) := .bool b

@[simp] theorem fits_real (x : Float) : Fits bound room (.real x) := .real x

@[simp] theorem fits_str (s : String) : Fits bound room (.str s) := .str s

@[simp] theorem fits_int_iff {n : Nat} : Fits bound room (.int n) ↔ n ≤ bound := by
  constructor
  · rintro ⟨⟩
    assumption
  · exact .int

@[simp] theorem fits_obj_iff {fields : List (String × Json)} :
    Fits bound (room + 1) (.obj fields) ↔ ∀ f ∈ fields, Fits bound room f.2 := by
  constructor
  · rintro ⟨⟩
    assumption
  · exact .obj

/-! ## Containers -/

/-- The remaining parts of a container and its end, each with the comma before it. -/
def partsText (close : Char) : List (List Char) → List Char
  | [] => [close]
  | t :: ts => ',' :: (t ++ partsText close ts)

/-- The parts of a container and its end. -/
def containerText (close : Char) : List (List Char) → List Char
  | [] => [close]
  | t :: ts => t ++ partsText close ts

theorem write_arr (items : List Json) :
    (arr items).write = '[' :: containerText ']' (items.map write) := by
  have hitems : ∀ vs : List Json, writeItems vs = partsText ']' (vs.map write) := by
    intro vs
    induction vs with
    | nil => rfl
    | cons v vs ih => rw [writeItems, ih, List.map_cons, partsText, List.cons_append]
  cases items with
  | nil => rfl
  | cons v vs => rw [write, hitems, List.map_cons, containerText, List.cons_append]

theorem objectText_eq (ms : List Member) :
    objectText ms = '{' :: containerText '}' (ms.map Member.text) := by
  have hmembers : ∀ ms : List Member, membersText ms = partsText '}' (ms.map Member.text) := by
    intro ms
    induction ms with
    | nil => rfl
    | cons m ms ih => rw [membersText, ih, List.map_cons, partsText]
  cases ms with
  | nil => rfl
  | cons m ms => rw [objectText, hmembers, List.map_cons, containerText]

section Containers

variable {β : Type} {part : Reader β} {close : Char}

theorem stops_partsText (hclose : close = ']' ∨ close = '}') (ts : List (List Char)) :
    Stops (partsText close ts ++ rest) := by
  rcases ts with _ | ⟨t, ts⟩
  · rcases hclose with rfl | rfl
    · exact stops_bracket rest
    · exact stops_brace rest
  · exact stops_comma _

theorem length_le_partsText (close : Char) (ts : List (List Char)) :
    ts.length ≤ (partsText close ts).length := by
  induction ts with
  | nil => exact Nat.zero_le _
  | cons t ts ih =>
    simp only [partsText, List.length_cons, List.length_append]
    omega

/-- A part that comes back from its text in front of whatever may follow it. -/
def PartReads (part : Reader β) (p : List Char × β) : Prop :=
  ∀ rest, Stops rest → part (p.1 ++ rest) = .ok (p.2, rest)

theorem readParts_text (hclose : close = ']' ∨ close = '}') {ps : List (List Char × β)}
    (hps : ∀ p ∈ ps, PartReads part p) {p : List Char × β} (hp : PartReads part p) {n : Nat}
    (hn : ps.length < n) (rest : List Char) :
    readParts part close n (p.1 ++ (partsText close (ps.map Prod.fst) ++ rest)) =
      .ok (p.2 :: ps.map Prod.snd, rest) := by
  induction ps generalizing p n with
  | nil =>
    obtain ⟨n, rfl⟩ := Nat.exists_eq_add_one_of_ne_zero (Nat.ne_zero_of_lt hn)
    rw [readParts, hp _ (stops_partsText hclose _)]
    rcases hclose with rfl | rfl <;> rfl
  | cons q ps ih =>
    obtain ⟨n, rfl⟩ := Nat.exists_eq_add_one_of_ne_zero (Nat.ne_zero_of_lt hn)
    have hq := ih (fun p hp => hps p (by simp [hp])) (hps q (by simp)) (Nat.lt_of_succ_lt_succ hn)
    have hrest : partsText close ((q :: ps).map Prod.fst) ++ rest =
        ',' :: (q.1 ++ (partsText close (ps.map Prod.fst) ++ rest)) := by
      rw [List.map_cons, partsText, List.cons_append, List.append_assoc]
    rw [readParts, hp _ (stops_partsText hclose _), hrest]
    simp only [bind, Except.bind, skipBlank_of_not_blank (show isBlank ',' = false from rfl), hq,
      List.map_cons]

/-- The parts of a container come back from its text, if the first of them does not look like its
end. -/
theorem readContainer_text (hclose : close = ']' ∨ close = '}') {ps : List (List Char × β)}
    (hps : ∀ p ∈ ps, PartReads part p)
    (hhead : ∀ p ∈ ps, ∃ c cs, p.1 = c :: cs ∧ isBlank c = false ∧ c ≠ close)
    (rest : List Char) :
    readContainer part close (containerText close (ps.map Prod.fst) ++ rest) =
      .ok (ps.map Prod.snd, rest) := by
  rcases ps with _ | ⟨p, ps⟩
  · rcases hclose with rfl | rfl <;> rfl
  obtain ⟨c, cs, hp, hblank, hc⟩ := hhead p (by simp)
  have htext : containerText close ((p :: ps).map Prod.fst) ++ rest =
      p.1 ++ (partsText close (ps.map Prod.fst) ++ rest) := by
    rw [List.map_cons, containerText, List.append_assoc]
  have hlength : ps.length <
      (p.1 ++ (partsText close (ps.map Prod.fst) ++ rest)).length + 1 := by
    have hparts := length_le_partsText close (ps.map Prod.fst)
    rw [List.length_map] at hparts
    simp only [List.length_append]
    omega
  have hskip : skipBlank (p.1 ++ (partsText close (ps.map Prod.fst) ++ rest)) =
      c :: (cs ++ (partsText close (ps.map Prod.fst) ++ rest)) := by
    rw [hp, List.cons_append, skipBlank_of_not_blank hblank]
  rw [htext, readContainer, hskip]
  simp only [if_neg hc]
  exact readParts_text hclose (fun q hq => hps q (by simp [hq])) (hps p (by simp)) hlength rest

end Containers

/-! ## Values -/

/-- A number as a value. -/
def Numeral.toJson : Numeral → Json
  | .natural n => .int n
  | .negative n => .int n
  | .real x => .real x

theorem readNumeral_head {cs r : List Char} {v : Numeral} (h : readNumeral cs = .ok (v, r)) :
    ∃ c cs', skipBlank cs = c :: cs' ∧ (c = '-' ∨ c.isDigit = Bool.true) := by
  rw [readNumeral] at h
  split at h
  · rename_i cs' hskip
    exact ⟨'-', cs', hskip, .inl rfl⟩
  · rename_i c cs' _ hskip
    split_ifs at h with hdigit
    exact ⟨c, cs', hskip, .inr hdigit⟩
  · cases h

theorem readNumeral_skipBlank (cs : List Char) : readNumeral (skipBlank cs) = readNumeral cs := by
  have hskip : skipBlank (skipBlank cs) = skipBlank cs := List.dropWhile_idempotent _ cs
  rw [readNumeral, hskip, readNumeral]

theorem readValue_of_readNumeral {cs r : List Char} {v : Numeral}
    (h : readNumeral cs = .ok (v, r)) :
    readValue room cs = .ok (v.toJson, r) := by
  obtain ⟨c, cs', hskip, hc⟩ := readNumeral_head h
  rw [← readNumeral_skipBlank, hskip] at h
  rw [readValue, hskip]
  split
  case h_8 c' cs'' _ _ _ _ _ _ heq =>
    cases heq
    rw [if_pos hc, h]
    cases v <;> rfl
  case h_1 _ heq => cases heq
  all_goals
    rename_i heq
    cases heq
    exact absurd hc (by decide)

/-- A field of an object, whatever its name. -/
def readField (room : Nat) : Reader (String × Json) := fun cs => do
  let (name, rest) ← readName cs
  let (v, rest) ← readValue room rest
  .ok ((name, v), rest)

theorem readValue_bracket {cs : List Char} {items : List Json}
    (h : readContainer (readValue room) ']' cs = .ok (items, rest)) :
    readValue (room + 1) ('[' :: cs) = .ok (.arr items, rest) := by
  rw [readValue, skipBlank_of_not_blank rfl]
  simp only [h]
  rfl

theorem readValue_brace {cs : List Char} {fields : List (String × Json)}
    (h : readContainer (readField room) '}' cs = .ok (fields, rest)) :
    readValue (room + 1) ('{' :: cs) = .ok (.obj fields, rest) := by
  unfold readField at h
  rw [readValue, skipBlank_of_not_blank rfl]
  simp only [h]
  rfl

theorem readField_text {name : String} {v v' : Json} {after : List Char}
    (h : readValue room (v.write ++ after) = .ok (v', after)) :
    readField room ((Member.of name v).text ++ after) = .ok ((name, v'), after) := by
  have hquote : expectChar '"' ((Member.of name v).text ++ after) =
      .ok ((Member.of name v).key ++ '"' :: ':' :: (v.write ++ after)) := by
    rw [Member.text, List.cons_append, List.append_assoc]
    rfl
  rw [readField, readName, hquote]
  simp only [bind, Except.bind, Member.readQuoted_key]
  rw [expectChar, skipBlank_of_not_blank rfl]
  simp only [if_pos, h]
  rfl

/-- A value of any shape comes back from its text as it was written. -/
theorem readValue_write {v : Json} (hfits : Fits Word.max64 room v)
    (hback : ∀ x ∈ v.reals, HasNumeral x → ReadsBack x) (hrest : Stops rest) :
    readValue room (v.write ++ rest) = .ok (v.asWritten, rest) := by
  induction hfits generalizing rest with
  | null => rw [readValue, asWritten]; rfl
  | bool b => cases b <;> rw [readValue, asWritten] <;> rfl
  | @int room n hn =>
    have hwrite : write (.int n) = Nat.toDigits 10 n := by
      rw [write, writeInt, if_neg (by omega), Int.natAbs_natCast]
    rw [hwrite, asWritten]
    exact readValue_of_readNumeral (readNumeral_toDigits hn hrest)
  | real x =>
    rw [write, asWritten]
    by_cases hx : HasNumeral x
    · rw [if_neg (by rw [hx]; decide)]
      exact readValue_of_readNumeral (readNumeral_writeReal hx (hback x (.head _) hx) hrest)
    · rw [writeReal_of_not_hasNumeral hx, if_pos (eq_true_of_ne_false hx), readValue]
      rfl
  | str s =>
    have htext : (str s).write ++ rest = '"' :: (s.toList.flatMap escape ++ '"' :: rest) := by
      simp [write, writeQuoted]
    rw [htext, asWritten, readValue]
    simp only [skipBlank_of_not_blank (show isBlank '"' = false from rfl), readQuoted_escape]
    rfl
  | @arr room items h ih =>
    have hitems : ∀ v ∈ items, PartReads (readValue room) (v.write, v.asWritten) :=
      fun v hv after hafter => ih v hv (fun x hx => hback x (mem_reals_arr hv hx)) hafter
    have hread := readContainer_text (.inl rfl) (List.forall_mem_map.mpr hitems)
      (List.forall_mem_map.mpr fun v _ => (written_write v).head) rest
    rw [List.map_map, List.map_map] at hread
    rw [write_arr, asWritten_arr]
    exact readValue_bracket hread
  | @obj room fields h ih =>
    have hfields : ∀ f ∈ fields,
        PartReads (readField room) ((Member.of f.1 f.2).text, (f.1, f.2.asWritten)) :=
      fun f hf after hafter =>
        readField_text (ih f hf (fun x hx => hback x (mem_reals_obj hf hx)) hafter)
    have hread := readContainer_text (.inr rfl) (List.forall_mem_map.mpr hfields)
      (List.forall_mem_map.mpr fun f _ => ⟨'"', _, rfl, rfl, by decide⟩) rest
    rw [List.map_map, List.map_map] at hread
    rw [write_obj, objectText_eq, List.map_map, asWritten_obj]
    exact readValue_brace hread

end BoomWalker.Json
