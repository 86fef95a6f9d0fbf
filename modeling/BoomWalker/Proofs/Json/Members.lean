/-
Objects as lists of members.

A record may be read from any object whose members tell it: `Told` says what they tell, one after
the other, in whatever order they stand and whatever unknown ones stand among them. A record is read
from an object as its members tell (`readRecord_told`), and from no object but such
(`told_of_readRecord`); so a known name that is repeated, or a required one that is missing, is
refused.
-/
import BoomWalker.Proofs.Json.Records
import BoomWalker.Proofs.Json.Writing

namespace BoomWalker.Json

/-- A member of an object: its name and the characters that spell it, and the text of its value. -/
structure Member where
  name : String
  key : List Char
  value : List Char
  spells : Spells key name.toList
  written : Written .value value

namespace Member

/-- A member as the writer writes it. -/
def of (name : String) (v : Json) : Member where
  name := name
  key := name.toList.flatMap escape
  value := v.write
  spells := spells_escape name.toList
  written := written_write v

def text (m : Member) : List Char := '"' :: (m.key ++ '"' :: ':' :: m.value)

theorem readQuoted_key (m : Member) (rest : List Char) :
    readQuoted (m.key ++ '"' :: rest) = .ok (m.name, rest) := by
  rw [readQuoted_spells m.spells, String.ofList_toList]

end Member

/-- The remaining members of an object and its end. -/
def membersText : List Member → List Char
  | [] => ['}']
  | m :: ms => ',' :: (m.text ++ membersText ms)

/-- The text of an object, without blanks between its members. -/
def objectText : List Member → List Char
  | [] => ['{', '}']
  | m :: ms => '{' :: (m.text ++ membersText ms)

theorem stops_membersText (ms : List Member) (rest : List Char) :
    Stops (membersText ms ++ rest) := by
  cases ms with
  | nil => exact stops_brace rest
  | cons m ms => exact stops_comma _

theorem writeMembers_eq (fields : List (String × Json)) :
    writeMembers fields = membersText (fields.map fun f => .of f.1 f.2) := by
  induction fields with
  | nil => rfl
  | cons f fields ih =>
    simp only [writeMembers, membersText, List.map_cons, Member.text, Member.of, writeQuoted, ih,
      List.cons_append, List.append_assoc, List.nil_append]

theorem write_obj (fields : List (String × Json)) :
    (Json.obj fields).write = objectText (fields.map fun f => .of f.1 f.2) := by
  cases fields with
  | nil => rfl
  | cons f fields =>
    simp only [write, objectText, List.map_cons, Member.text, Member.of, writeQuoted,
      writeMembers_eq, List.cons_append, List.append_assoc, List.nil_append]

theorem written_membersText (ms : List Member) : WrittenRest .members '}' (membersText ms) := by
  induction ms with
  | nil => exact .inl rfl
  | cons m ms ih =>
    obtain ⟨cs, hcs, htext⟩ := written_member m.spells.quotable m.written ih
    exact .inr ⟨cs, hcs, by rw [membersText, Member.text, htext, List.cons_append]⟩

theorem written_objectText (ms : List Member) : Written .value (objectText ms) := by
  cases ms with
  | nil => exact .emptyObject blanks_nil
  | cons m ms =>
    obtain ⟨cs, hcs, htext⟩ :=
      written_member m.spells.quotable m.written (written_membersText ms)
    rw [objectText, Member.text, htext]
    exact .object hcs

/-! ## What members tell -/

variable {ρ : Type} {fields : List (RecordField ρ)} {rest : List Char}

/-- What members tell of a record, in front of the given text: the names that were read and the
record go from member to member, until the end or a value that is refused. -/
inductive Told (fields : List (RecordField ρ)) (rest : List Char) :
    List String → ρ → List Member → Except ReadError ρ → Prop
  | done {seen : List String} {r : ρ} (hcomplete : complete fields seen = true) :
      Told fields rest seen r [] (.ok r)
  | refused {seen : List String} {r : ρ} {m : Member} {ms : List Member} {f : RecordField ρ}
      {e : ReadError} (hfind : fields.find? (·.name == m.name) = some f) (hnew : m.name ∉ seen)
      (hread : f.read r (m.value ++ (membersText ms ++ rest)) = .error e) :
      Told fields rest seen r (m :: ms) (.error e)
  | cons {seen seen' : List String} {r r' : ρ} {m : Member} {ms : List Member}
      {outcome : Except ReadError ρ}
      (hm : Taken fields m.name m.value (membersText ms ++ rest) seen r seen' r')
      (h : Told fields rest seen' r' ms outcome) : Told fields rest seen r (m :: ms) outcome

theorem readFields_text (m : Member) (n : Nat) (seen : List String) (r : ρ) (after : List Char) :
    readFields fields (n + 1) seen r (m.text ++ after) =
      readMember fields n seen r m.name (m.value ++ after) := by
  have htext : m.text ++ after =
      [] ++ '"' :: (m.key ++ '"' :: ([] ++ ':' :: (m.value ++ after))) := by
    simp [Member.text]
  rw [htext]
  exact readFields_name blanks_nil blanks_nil (m.readQuoted_key _) n seen r

theorem readNext_nil (n : Nat) (seen : List String) (r : ρ) :
    readNext fields n seen r (membersText [] ++ rest) =
      if complete fields seen then .ok (r, rest) else .error .mismatch :=
  readNext_brace blanks_nil rest

theorem readNext_cons (m : Member) (ms : List Member) (n : Nat) (seen : List String) (r : ρ) :
    readNext fields (n + 1) seen r (membersText (m :: ms) ++ rest) =
      readMember fields n seen r m.name (m.value ++ (membersText ms ++ rest)) := by
  rw [← readFields_text, membersText, List.cons_append, List.append_assoc]
  exact readNext_comma blanks_nil _

theorem readNext_told {seen : List String} {r : ρ} {ms : List Member} {outcome : Except ReadError ρ}
    (h : Told fields rest seen r ms outcome) {n : Nat} (hn : ms.length ≤ n) :
    readNext fields n seen r (membersText ms ++ rest) = outcome.map fun r => (r, rest) := by
  induction h generalizing n with
  | done hcomplete =>
    rw [readNext_nil, if_pos hcomplete]
    rfl
  | refused hfind hnew hread =>
    obtain ⟨n, rfl⟩ := Nat.exists_eq_add_one_of_ne_zero (Nat.ne_zero_of_lt hn)
    rw [readNext_cons, readMember, hfind]
    simp only [List.contains_eq_mem, decide_eq_true_eq, if_neg hnew, hread]
    rfl
  | cons hm h ih =>
    obtain ⟨n, rfl⟩ := Nat.exists_eq_add_one_of_ne_zero (Nat.ne_zero_of_lt hn)
    rw [readNext_cons, readMember_taken (Member.written _) (stops_membersText _ rest) hm]
    exact ih (Nat.le_of_succ_le_succ hn)

theorem length_le_membersText (ms : List Member) : ms.length ≤ (membersText ms).length := by
  induction ms with
  | nil => exact Nat.zero_le _
  | cons m ms ih =>
    simp only [membersText, List.length_cons, List.length_append]
    omega

theorem readRecord_objectText (short : Bool) (r : ρ) (ms : List Member) (rest : List Char) :
    ∃ n, ms.length ≤ n ∧ readRecord short fields r (objectText ms ++ rest) =
      readNext fields n [] r (membersText ms ++ rest) := by
  cases ms with
  | nil =>
    refine ⟨0, le_rfl, ?_⟩
    rw [readNext_nil]
    exact readRecord_object_empty short blanks_nil r rest
  | cons m ms =>
    have hlength := length_le_membersText ms
    refine ⟨(m.text ++ membersText ms ++ rest).length + 1, ?_, ?_⟩
    · simp only [List.length_append, List.length_cons]
      omega
    · rw [readNext_cons, ← readFields_text, ← List.append_assoc]
      exact readRecord_object short (skipBlank_of_not_blank rfl _) (by decide) r

/-- A record is read from an object as its members tell. -/
theorem readRecord_told {short : Bool} {r : ρ} {ms : List Member} {outcome : Except ReadError ρ}
    (h : Told fields rest [] r ms outcome) :
    readRecord short fields r (objectText ms ++ rest) = outcome.map fun r => (r, rest) := by
  obtain ⟨n, hn, hread⟩ := readRecord_objectText short r ms rest
  rw [hread, readNext_told h hn]

/-- The names that a record knows. -/
abbrev knownNames (fields : List (RecordField ρ)) : List String := fields.map RecordField.name

theorem find?_eq_none_iff {name : String} :
    fields.find? (·.name == name) = none ↔ name ∉ knownNames fields := by
  simp [knownNames]

/-- No known name is repeated. -/
def Distinct (fields : List (RecordField ρ)) (ms : List Member) : Prop :=
  ms.Pairwise fun m m' => m.name = m'.name → m.name ∉ knownNames fields

theorem Distinct.perm {ms ms' : List Member} (h : Distinct fields ms) (hperm : ms.Perm ms') :
    Distinct fields ms' := by
  refine (hperm.pairwise_iff ?_).mp h
  intro m m' hm heq
  rw [heq]
  exact hm heq.symm

/-- A member that puts something into the record: an unknown one nothing, and a known one what is
read from its value. -/
structure Puts (fields : List (RecordField ρ)) (put : Member → ρ → ρ) (m : Member) : Prop where
  unknown : m.name ∉ knownNames fields → ∀ r, put m r = r
  known : ∀ f, fields.find? (·.name == m.name) = some f → ∀ r rest, Stops rest →
    f.read r (m.value ++ rest) = .ok (put m r, rest)

theorem Puts.taken {put : Member → ρ → ρ} {m : Member} (hm : Puts fields put m)
    {seen : List String} (hnew : m.name ∈ knownNames fields → m.name ∉ seen) {after : List Char}
    (hafter : Stops after) (r : ρ) :
    ∃ seen', Taken fields m.name m.value after seen r seen' (put m r) ∧
      ∀ name ∈ knownNames fields, name ∈ seen' ↔ name = m.name ∨ name ∈ seen := by
  cases hfind : fields.find? (·.name == m.name) with
  | none =>
    have hunknown := find?_eq_none_iff.mp hfind
    refine ⟨seen, ?_, fun name hname => ?_⟩
    · rw [hm.unknown hunknown]
      exact .unknown hfind
    · have hne : name ≠ m.name := by
        rintro rfl
        exact hunknown hname
      simp [hne]
  | some f =>
    have hknown : m.name ∈ knownNames fields := by
      by_contra hunknown
      rw [find?_eq_none_iff.mpr hunknown] at hfind
      cases hfind
    exact ⟨m.name :: seen, .known hfind (hnew hknown) (hm.known f hfind r after hafter),
      fun name _ => List.mem_cons⟩

/-- Members in any order tell what each of them puts into the record, one after the other. -/
theorem told_fold {put : Member → ρ → ρ} {ms : List Member} (hputs : ∀ m ∈ ms, Puts fields put m)
    (hdistinct : Distinct fields ms) {seen : List String}
    (hnew : ∀ m ∈ ms, m.name ∈ knownNames fields → m.name ∉ seen)
    (hrequired : ∀ f ∈ fields, f.required = true → f.name ∈ seen ∨ f.name ∈ ms.map Member.name)
    (r : ρ) : Told fields rest seen r ms (.ok (ms.foldl (fun r m => put m r) r)) := by
  induction ms generalizing seen r with
  | nil =>
    refine .done (List.all_eq_true.mpr fun f hf => ?_)
    cases hreq : f.required with
    | false => rfl
    | true => simpa using hrequired f hf hreq
  | cons m ms ih =>
    obtain ⟨hm, hms⟩ := List.pairwise_cons.mp hdistinct
    obtain ⟨seen', htaken, hseen'⟩ :=
      (hputs m (by simp)).taken (hnew m (by simp)) (stops_membersText ms rest) r
    refine .cons htaken (ih (fun m' h' => hputs m' (by simp [h'])) hms ?_ ?_ (put m r))
    · intro m' h' hknown hmem
      rcases (hseen' _ hknown).mp hmem with heq | hseen
      · exact hm m' h' heq.symm (heq ▸ hknown)
      · exact hnew m' (by simp [h']) hknown hseen
    · intro f hf hreq
      rcases hrequired f hf hreq with hseen | hmem
      · exact .inl ((hseen' _ (List.mem_map_of_mem hf)).mpr (.inr hseen))
      · rcases List.mem_cons.mp hmem with heq | hmem
        · exact .inl ((hseen' _ (List.mem_map_of_mem hf)).mpr (.inl heq))
        · exact .inr hmem

theorem told_of_readNext (hfields : ExactFields fields) {n : Nat} {seen : List String} {r : ρ}
    {ms : List Member} {p : ρ × List Char}
    (h : readNext fields n seen r (membersText ms ++ rest) = .ok p) :
    Told fields rest seen r ms (.ok p.1) := by
  induction ms generalizing n seen r with
  | nil =>
    rw [readNext_nil] at h
    split_ifs at h with hcomplete
    cases h
    exact .done hcomplete
  | cons m ms ih =>
    rcases n with _ | n
    · have hzero : readNext fields 0 seen r (membersText (m :: ms) ++ rest) =
          .error .endOfText := readNext_comma blanks_nil _
      rw [hzero] at h
      cases h
    rw [readNext_cons] at h
    obtain ⟨seen', r', htaken, hnext⟩ := taken_of_readMember hfields blanks_nil m.written
      (stops_membersText ms rest) h
    exact .cons htaken (ih hnext)

/-- And it is read from no other object. -/
theorem told_of_readRecord (hfields : ExactFields fields) {short : Bool} {r : ρ}
    {ms : List Member} {p : ρ × List Char}
    (h : readRecord short fields r (objectText ms ++ rest) = .ok p) :
    Told fields rest [] r ms (.ok p.1) := by
  obtain ⟨n, -, hread⟩ := readRecord_objectText short r ms rest
  rw [hread] at h
  exact told_of_readNext hfields h

namespace Told

variable {seen : List String} {r r' : ρ} {ms : List Member}

theorem required (h : Told fields rest seen r ms (.ok r')) {f : RecordField ρ} (hf : f ∈ fields)
    (hrequired : f.required = true) : f.name ∈ seen ∨ f.name ∈ ms.map Member.name := by
  generalize hout : Except.ok r' = outcome at h
  induction h with
  | done hcomplete =>
    have hseen := List.all_eq_true.mp hcomplete f hf
    rw [hrequired] at hseen
    exact .inl (by simpa using hseen)
  | refused hfind hnew hread => cases hout
  | cons hm h ih =>
    rcases ih hout with hseen | hms
    · cases hm with
      | unknown hfind => exact .inl hseen
      | known hfind hnew hread =>
        rcases List.mem_cons.mp hseen with hname | hseen
        · exact .inr (by simp [hname])
        · exact .inl hseen
    · exact .inr (by simp only [List.map_cons, List.mem_cons, hms, or_true])

theorem once (h : Told fields rest seen r ms (.ok r')) {name : String}
    (hname : name ∈ knownNames fields) :
    (ms.map Member.name).count name + (if name ∈ seen then 1 else 0) ≤ 1 := by
  generalize hout : Except.ok r' = outcome at h
  induction h with
  | done hcomplete =>
    simp only [List.map_nil, List.count_nil]
    split <;> omega
  | refused hfind hnew hread => cases hout
  | cons htaken h ih =>
    have hms := ih hout
    cases htaken with
    | unknown hfind =>
      obtain ⟨f, hf, rfl⟩ := List.mem_map.mp hname
      have hne := List.find?_eq_none.mp hfind f hf
      rw [beq_iff_eq] at hne
      rw [List.map_cons, List.count_cons_of_ne (Ne.symm hne)]
      exact hms
    | known hfind hnew hread =>
      rename_i m _ _ _
      by_cases hm : m.name = name
      · subst hm
        rw [if_pos (by simp)] at hms
        rw [List.map_cons, List.count_cons_self, if_neg hnew]
        exact hms
      · rw [List.map_cons, List.count_cons_of_ne hm]
        simpa [Ne.symm hm] using hms

theorem read (h : Told fields rest seen r ms (.ok r')) {m : Member} (hm : m ∈ ms)
    {f : RecordField ρ} (hfind : fields.find? (·.name == m.name) = some f) :
    ∃ r₀ r₁ after, f.read r₀ (m.value ++ after) = .ok (r₁, after) := by
  generalize hout : Except.ok r' = outcome at h
  induction h with
  | done hcomplete => cases hm
  | refused hfind hnew hread => cases hout
  | cons htaken h ih =>
    rcases List.mem_cons.mp hm with rfl | hm
    · cases htaken with
      | unknown hunknown =>
        rw [hunknown] at hfind
        cases hfind
      | known hknown hnew hread =>
        rw [hknown] at hfind
        cases hfind
        exact ⟨_, _, _, hread⟩
    · exact ih hm hout

end Told

end BoomWalker.Json
