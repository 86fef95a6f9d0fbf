/-
Records in the midst of a text.

The members of an object are taken one after the other (`readMember_taken`): an unknown one is
skipped, and a known one is read into the record unless its name was read before. A record of fields
that read their values whole is itself read whole, from an object as from an array
(`readRecord_exact`).
-/
import BoomWalker.Proofs.Json.Exactness

namespace BoomWalker.Json

variable {ρ : Type} {fields : List (RecordField ρ)}

/-! ## One member -/

/-- What follows the value of a member. -/
def readNext (fields : List (RecordField ρ)) (n : Nat) (seen : List String) (r : ρ)
    (after : List Char) : Except ReadError (ρ × List Char) :=
  match skipBlank after with
  | [] => .error .endOfText
  | ',' :: rest => readFields fields n seen r rest
  | '}' :: rest => if complete fields seen then .ok (r, rest) else .error .mismatch
  | _ :: _ => .error .malformed

/-- A member from its value on, the name being read. -/
def readMember (fields : List (RecordField ρ)) (n : Nat) (seen : List String) (r : ρ)
    (name : String) (cs : List Char) : Except ReadError (ρ × List Char) :=
  match fields.find? (·.name == name) with
  | none => (skipValue cs).bind (readNext fields n seen r)
  | some f =>
    if seen.contains name then .error .mismatch
    else (f.read r cs).bind fun p => readNext fields n (name :: seen) p.1 p.2

theorem readFields_name {b key b' cs : List Char} {name : String} (hb : Blanks b)
    (hb' : Blanks b')
    (hkey : readQuoted (key ++ '"' :: (b' ++ ':' :: cs)) = .ok (name, b' ++ ':' :: cs)) (n : Nat)
    (seen : List String) (r : ρ) :
    readFields fields (n + 1) seen r (b ++ '"' :: (key ++ '"' :: (b' ++ ':' :: cs))) =
      readMember fields n seen r name cs := by
  have hcolon := expectChar_append hb' (c := ':') rfl cs
  rw [readFields, expectChar_append hb rfl]
  simp only [bind, Except.bind]
  rw [hkey]
  simp only [readMember]
  cases fields.find? (·.name == name) with
  | none =>
    simp only [hcolon]
    cases skipValue cs <;> rfl
  | some f =>
    simp only [hcolon]
    cases seen.contains name with
    | true => rfl
    | false => cases f.read r cs <;> rfl

/-- What a member does to the names that were read and to the record. -/
inductive Taken (fields : List (RecordField ρ)) (name : String) (v after : List Char) :
    List String → ρ → List String → ρ → Prop
  | unknown {seen : List String} {r : ρ} (hfind : fields.find? (·.name == name) = none) :
      Taken fields name v after seen r seen r
  | known {seen : List String} {f : RecordField ρ} {r r' : ρ}
      (hfind : fields.find? (·.name == name) = some f) (hnew : name ∉ seen)
      (hread : f.read r (v ++ after) = .ok (r', after)) :
      Taken fields name v after seen r (name :: seen) r'

theorem readMember_taken {name : String} {v after : List Char} {seen seen' : List String} {r r' : ρ}
    (hv : Written .value v) (hafter : Stops after)
    (h : Taken fields name v after seen r seen' r') (n : Nat) :
    readMember fields n seen r name (v ++ after) = readNext fields n seen' r' after := by
  cases h with
  | unknown hfind =>
    have hskip := skipValue_written blanks_nil hv hafter
    rw [List.nil_append] at hskip
    rw [readMember, hfind, hskip]
    rfl
  | known hfind hnew hread =>
    simp only [readMember, hfind, List.contains_eq_mem, decide_eq_true_eq, if_neg hnew, hread]
    rfl

/-- Every known field reads its value whole. -/
def ExactFields (fields : List (RecordField ρ)) : Prop := ∀ f ∈ fields, ∀ r, Exact (f.read r)

theorem RecordField.of_read_ok {β : Type} {value : Reader β} {b : β} {cs rest : List Char}
    (h : value cs = .ok (b, rest)) (name : String) (required : Bool) (put : ρ → β → ρ) (r : ρ) :
    (RecordField.of name required value put).read r cs = .ok (put r b, rest) := by
  simp only [RecordField.of, h, bind, Except.bind]

theorem RecordField.of_read_error {β : Type} {value : Reader β} {e : ReadError} {cs : List Char}
    (h : value cs = .error e) (name : String) (required : Bool) (put : ρ → β → ρ) (r : ρ) :
    (RecordField.of name required value put).read r cs = .error e := by
  simp only [RecordField.of, h, bind, Except.bind]

theorem RecordField.exact_of {β : Type} {value : Reader β} (h : Exact value) (name : String)
    (required : Bool) (put : ρ → β → ρ) (r : ρ) :
    Exact ((RecordField.of name required value put).read r) :=
  h.map (put r)

theorem taken_of_readMember (hfields : ExactFields fields) {name : String} {d v after : List Char}
    {seen : List String} {r : ρ} {n : Nat} {p : ρ × List Char} (hd : Blanks d)
    (hv : Written .value v) (hafter : Stops after)
    (h : readMember fields n seen r name (d ++ (v ++ after)) = .ok p) :
    ∃ seen' r', Taken fields name v after seen r seen' r' ∧
      readNext fields n seen' r' after = .ok p := by
  unfold readMember at h
  cases hfind : fields.find? (·.name == name) with
  | none =>
    rw [hfind, skipValue_written hd hv hafter] at h
    exact ⟨seen, r, .unknown hfind, h⟩
  | some f =>
    have hexact := hfields f (List.mem_of_find?_eq_some hfind) r
    simp only [hfind, hexact.blanks hd] at h
    split_ifs at h with hnew
    obtain ⟨⟨r', after'⟩, hread, hnext⟩ := of_bind_eq_ok h
    obtain rfl := hexact.leaves hv hafter hread
    exact ⟨_, _, .known hfind (by simpa using hnew) hread, hnext⟩

/-! ## Exactness -/

theorem readNext_comma {n : Nat} {seen : List String} {r : ρ} {b : List Char} (hb : Blanks b)
    (cs : List Char) :
    readNext fields n seen r (b ++ ',' :: cs) = readFields fields n seen r cs := by
  rw [readNext, skipBlank_append hb, skipBlank_of_not_blank rfl]
  rfl

theorem readNext_brace {n : Nat} {seen : List String} {r : ρ} {b : List Char} (hb : Blanks b)
    (rest : List Char) :
    readNext fields n seen r (b ++ '}' :: rest) =
      if complete fields seen then .ok (r, rest) else .error .mismatch := by
  rw [readNext, skipBlank_append hb, skipBlank_of_not_blank rfl]
  rfl

/-- The name of a member is read whole, and the member from its value on. -/
theorem readFields_ok {b key b' cs : List Char} {n : Nat} {seen : List String} {r : ρ}
    {p : ρ × List Char} (hb : Blanks b) (hkey : Quotable key) (hb' : Blanks b')
    (h : readFields fields (n + 1) seen r (b ++ '"' :: (key ++ '"' :: (b' ++ ':' :: cs))) = .ok p) :
    ∃ name, readMember fields n seen r name cs = .ok p := by
  have hquoted := h
  rw [readFields, expectChar_append hb rfl] at hquoted
  obtain ⟨_, hquote, hquoted⟩ := of_bind_eq_ok hquoted
  cases hquote
  obtain ⟨⟨name, after⟩, hname, -⟩ := of_bind_eq_ok hquoted
  obtain rfl := readQuoted_exact hkey hname
  exact ⟨name, by rw [← readFields_name hb hb' hname, h]⟩

theorem readFields_exact (hfields : ExactFields fields) {cs rest : List Char}
    (hcs : Written .members cs) {n : Nat} {seen : List String} {r : ρ} {p : ρ × List Char}
    (h : readFields fields n seen r (cs ++ '}' :: rest) = .ok p) : p.2 = rest := by
  induction n generalizing cs seen r with
  | zero => cases h
  | succ n ih =>
    cases hcs with
    | member hb hkey hb' hd hv hd' =>
      simp only [List.append_assoc, List.cons_append] at h
      obtain ⟨name, hmember⟩ := readFields_ok hb hkey hb' h
      obtain ⟨seen', r', -, hnext⟩ := taken_of_readMember hfields hd hv
        (stops_blanks_append hd' (stops_brace rest)) hmember
      rw [readNext_brace hd'] at hnext
      split_ifs at hnext
      cases hnext
      rfl
    | members hb hkey hb' hd hv hd' hcs =>
      simp only [List.append_assoc, List.cons_append] at h
      obtain ⟨name, hmember⟩ := readFields_ok hb hkey hb' h
      obtain ⟨seen', r', -, hnext⟩ := taken_of_readMember hfields hd hv
        (stops_blanks_append hd' (stops_comma _)) hmember
      rw [readNext_comma hd'] at hnext
      exact ih hcs hnext

/-- What follows the value of an item, with the fields that are left. -/
def readRest (short : Bool) (fields : List (RecordField ρ)) (r : ρ) (after : List Char) :
    Except ReadError (ρ × List Char) :=
  match skipBlank after with
  | [] => .error .endOfText
  | ']' :: rest => if short || fields.isEmpty then .ok (r, rest) else .error .mismatch
  | ',' :: rest =>
    if fields.isEmpty then .error .malformed else readSequence short fields false r rest
  | _ :: _ => .error .malformed

theorem readSequence_cons {f : RecordField ρ} {short first : Bool} {r : ρ} {cs cs' : List Char}
    {c : Char} (hcs : skipBlank cs = c :: cs') (hc : c ≠ ']') :
    readSequence short (f :: fields) first r cs =
      (f.read r cs).bind fun p => readRest short fields p.1 p.2 := by
  rw [readSequence, hcs]
  split
  · rename_i heq
    cases heq
  · rename_i heq
    exact absurd (List.cons.inj heq).1 hc
  · cases f.read r cs <;> rfl

theorem readSequence_nil {short first : Bool} {r : ρ} {cs cs' : List Char} {c : Char}
    (hcs : skipBlank cs = c :: cs') (hc : c ≠ ']') {p : ρ × List Char} :
    readSequence short [] first r cs ≠ .ok p := by
  rw [readSequence, hcs]
  split
  · rintro ⟨⟩
  · rename_i heq
    exact absurd (List.cons.inj heq).1 hc
  · rintro ⟨⟩

theorem readRest_bracket {short : Bool} {r : ρ} {b rest : List Char} {p : ρ × List Char}
    (hb : Blanks b) (h : readRest short fields r (b ++ ']' :: rest) = .ok p) : p.2 = rest := by
  rw [readRest, skipBlank_append hb, skipBlank_of_not_blank rfl] at h
  simp only at h
  split_ifs at h
  cases h
  rfl

theorem readRest_comma {short : Bool} {r : ρ} {b cs : List Char} {p : ρ × List Char}
    (hb : Blanks b) (h : readRest short fields r (b ++ ',' :: cs) = .ok p) :
    readSequence short fields false r cs = .ok p := by
  rw [readRest, skipBlank_append hb, skipBlank_of_not_blank rfl] at h
  simp only at h
  split_ifs at h
  exact h

theorem readSequence_exact (hfields : ExactFields fields) {short first : Bool}
    {cs rest : List Char} (hcs : Written .items cs) {r : ρ} {p : ρ × List Char}
    (h : readSequence short fields first r (cs ++ ']' :: rest) = .ok p) : p.2 = rest := by
  induction fields generalizing cs first r with
  | nil =>
    obtain ⟨c, cs', hhead, hc⟩ := hcs.items_head (']' :: rest)
    exact absurd h (readSequence_nil hhead hc)
  | cons f fields ih =>
    obtain ⟨c, cs', hhead, hc⟩ := hcs.items_head (']' :: rest)
    have hexact := hfields f (by simp) r
    rw [readSequence_cons hhead hc] at h
    cases hread : f.read r (cs ++ ']' :: rest) with
    | error err =>
      rw [hread] at h
      cases h
    | ok q =>
      obtain ⟨r', after⟩ := q
      rw [hread] at h
      cases hcs with
      | item hb hv hb' =>
        simp only [List.append_assoc, hexact.blanks hb] at hread
        obtain rfl := hexact.leaves hv (stops_blanks_append hb' (stops_bracket rest)) hread
        exact readRest_bracket hb' h
      | items hb hv hb' hcs =>
        simp only [List.append_assoc, List.cons_append, hexact.blanks hb] at hread
        obtain rfl := hexact.leaves hv (stops_blanks_append hb' (stops_comma _)) hread
        exact ih (fun g hg => hfields g (by simp [hg])) hcs (readRest_comma hb' h)

theorem readSequence_empty {short first : Bool} {b rest : List Char} {r : ρ} {p : ρ × List Char}
    (hb : Blanks b) (h : readSequence short fields first r (b ++ ']' :: rest) = .ok p) :
    p.2 = rest := by
  cases fields with
  | nil =>
    rw [readSequence, skipBlank_append hb, skipBlank_of_not_blank rfl] at h
    simp only at h
    split_ifs at h
    cases h
    rfl
  | cons f fields =>
    rw [readSequence, skipBlank_append hb, skipBlank_of_not_blank rfl] at h
    simp only at h
    split_ifs at h
    cases h
    rfl

theorem readRecord_object_empty (short : Bool) {b : List Char} (hb : Blanks b) (r : ρ)
    (rest : List Char) :
    readRecord short fields r ('{' :: (b ++ '}' :: rest)) =
      if complete fields [] then .ok (r, rest) else .error .mismatch := by
  rw [readRecord, skipBlank_of_not_blank rfl]
  simp only
  rw [skipBlank_append hb, skipBlank_of_not_blank rfl]
  rfl

theorem readRecord_object (short : Bool) {cs cs' : List Char} {c : Char}
    (hcs : skipBlank cs = c :: cs') (hc : c ≠ '}') (r : ρ) :
    readRecord short fields r ('{' :: cs) = readFields fields (cs.length + 1) [] r cs := by
  rw [readRecord, skipBlank_of_not_blank rfl]
  simp only
  rw [hcs]
  split
  · rename_i heq
    cases heq
  · rename_i heq
    exact absurd (List.cons.inj heq).1 hc
  · rfl

theorem readRecord_exact (hfields : ExactFields fields) (short : Bool) (r : ρ) :
    Exact (readRecord short fields r) := by
  refine ⟨fun hb cs => by rw [readRecord, readRecord, skipBlank_append hb], ?_⟩
  intro v rest r' after hv hrest h
  cases hv with
  | null => cases h
  | true => cases h
  | false => cases h
  | negative hcs => cases h
  | string hcs => cases h
  | emptyArray hb =>
    simp only [List.cons_append, List.append_assoc, List.nil_append] at h
    exact readSequence_empty hb h
  | array hcs =>
    simp only [List.cons_append, List.append_assoc, List.nil_append] at h
    exact readSequence_exact hfields hcs h
  | emptyObject hb =>
    simp only [List.cons_append, List.append_assoc, List.nil_append] at h
    rw [readRecord_object_empty short hb] at h
    split_ifs at h
    cases h
    rfl
  | object hcs =>
    obtain ⟨c, cs', hhead, hc⟩ := hcs.members_head ('}' :: rest)
    simp only [List.cons_append, List.append_assoc, List.nil_append] at h
    rw [readRecord_object short hhead hc] at h
    exact readFields_exact hfields hcs h
  | number hcs =>
    obtain ⟨d, ds, rfl, hd⟩ := hcs.head
    rw [List.cons_append, readRecord, skipBlank_of_not_blank (not_blank_of_digit hd)] at h
    split at h
    · rename_i heq
      cases heq
      exact absurd hd (by decide)
    · rename_i heq
      cases heq
      exact absurd hd (by decide)
    · cases h

end BoomWalker.Json
