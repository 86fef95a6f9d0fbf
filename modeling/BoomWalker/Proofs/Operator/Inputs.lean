/-
Inputs of an operator, written and read.

The fields of an input are independent of one another and leave nothing of it out: `Lawful`. So an
input that is read from members in any order has the values of the fields that occur, and keeps
those that it started from in the others (`readInput_members`).
-/
import BoomWalker.Gait.Catalogue
import BoomWalker.Proofs.Json.Members
import Mathlib.Data.List.Nodup
import Mathlib.Data.List.Pairwise

namespace BoomWalker

open Json

variable {ρ : Type}

/-! ## The value of a field -/

namespace Slot

/-- Take the value of a field over from another record. -/
def copy (source : ρ) : Slot ρ → ρ → ρ
  | flag get set, r => set r (get source)
  | byte get set, r => set r (get source)
  | real get set, r => set r (get source)

/-- The value of a field, if it is a real number, has a numeral that it comes back from. -/
def Legible (r : ρ) : Slot ρ → Prop
  | flag _ _ => True
  | byte _ _ => True
  | real get _ => HasNumeral (get r) ∧ ReadsBack (get r)

theorem read_toJson {s : Slot ρ} {source : ρ} (h : s.Legible source) (r : ρ) {rest : List Char}
    (hrest : Stops rest) :
    s.read r ((s.toJson source).write ++ rest) = .ok (s.copy source r, rest) := by
  cases s with
  | flag get set =>
    rw [read, toJson, readBool_write]
    rfl
  | byte get set =>
    have hread : readNatural 255 (writeInt (get source).toNat ++ rest) =
        .ok ((get source).toNat, rest) :=
      readNatural_writeInt (by decide) (Nat.le_of_lt_succ (get source).toNat_lt) hrest
    rw [read, toJson, write, hread]
    simp only [bind, Except.bind, UInt8.ofNat_toNat, copy]
  | real get set =>
    rw [read, toJson, write, readReal_writeReal h.1 h.2 hrest]
    rfl

theorem read_exact (s : Slot ρ) (r : ρ) : Exact (s.read r) := by
  cases s with
  | flag get set => exact readBool_exact.map _
  | byte get set => exact (readNatural_exact 255).map fun n => set r (UInt8.ofNat n)
  | real get set => exact readReal_exact.map _

end Slot

/-! ## Independent fields -/

namespace InputField

/-- Neither field changes when the other is taken over. -/
def Independent (f g : InputField ρ) : Prop :=
  ∀ source r, g.slot.toJson (f.slot.copy source r) = g.slot.toJson r ∧
    f.slot.toJson (g.slot.copy source r) = f.slot.toJson r

instance : Std.Symm (@Independent ρ) where
  symm _ _ h source r := (h source r).symm

/-- The names of the fields differ, a field that is taken over changes no other, and two inputs that
agree in every field are the same. -/
structure Lawful (fields : List (InputField ρ)) : Prop where
  nodup : (fields.map InputField.name).Nodup
  copy_self : ∀ f ∈ fields, ∀ source r, f.slot.toJson (f.slot.copy source r) = f.slot.toJson source
  independent : fields.Pairwise Independent
  ext : ∀ r r', (∀ f ∈ fields, f.slot.toJson r = f.slot.toJson r') → r = r'

variable {fields : List (InputField ρ)}

theorem Lawful.toJson_copy (h : Lawful fields) {f g : InputField ρ} (hf : f ∈ fields)
    (hg : g ∈ fields) (source r : ρ) :
    g.slot.toJson (f.slot.copy source r) =
      g.slot.toJson (if g.name = f.name then source else r) := by
  by_cases hname : g.name = f.name
  · rw [if_pos hname, List.inj_on_of_nodup_map h.nodup hg hf hname]
    exact h.copy_self f hf source r
  · have hne : f ≠ g := by
      rintro rfl
      exact hname rfl
    rw [if_neg hname]
    exact (h.independent.forall hf hg hne source r).1

theorem Lawful.find?_name (h : Lawful fields) {f : InputField ρ} (hf : f ∈ fields) :
    fields.find? (·.name == f.name) = some f := by
  cases hfind : fields.find? (·.name == f.name) with
  | none => exact absurd (List.find?_eq_none.mp hfind f hf) (by simp)
  | some g =>
    have hname : g.name = f.name := by simpa using List.find?_some hfind
    rw [List.inj_on_of_nodup_map h.nodup (List.mem_of_find?_eq_some hfind) hf hname]

/-! ## Inputs from members -/

/-- The names of the fields. -/
abbrev names (fields : List (InputField ρ)) : List String := fields.map InputField.name

theorem knownNames_toField : knownNames (fields.map toField) = names fields := by
  simp [knownNames, names, toField, Function.comp_def]

theorem exactFields : ExactFields (fields.map toField) := by
  intro f hf r
  obtain ⟨g, -, rfl⟩ := List.mem_map.mp hf
  exact g.slot.read_exact r

/-- A field of an input as a member. -/
def memberOf (source : ρ) (f : InputField ρ) : Member := .of f.name (f.slot.toJson source)

/-- What a member puts into an input, if it has its value from another one. -/
def put (fields : List (InputField ρ)) (source : ρ) (m : Member) (r : ρ) : ρ :=
  match fields.find? (·.name == m.name) with
  | some f => f.slot.copy source r
  | none => r

theorem puts_unknown (source : ρ) {m : Member} (hm : m.name ∉ names fields) :
    Puts (fields.map toField) (put fields source) m := by
  refine ⟨fun _ r => ?_, fun f hf => ?_⟩
  · have hfind : fields.find? (·.name == m.name) = none := by simpa [names] using hm
    rw [put, hfind]
  · rw [find?_eq_none_iff.mpr (knownNames_toField ▸ hm)] at hf
    cases hf

theorem Lawful.puts_memberOf (h : Lawful fields) {source : ρ} {f : InputField ρ} (hf : f ∈ fields)
    (hlegible : f.slot.Legible source) :
    Puts (fields.map toField) (put fields source) (memberOf source f) := by
  have hfind : fields.find? (·.name == (memberOf source f).name) = some f := h.find?_name hf
  refine ⟨fun hunknown => ?_, fun g hg r rest hrest => ?_⟩
  · rw [knownNames_toField] at hunknown
    exact absurd (List.mem_map_of_mem hf) hunknown
  · have hfield : (fields.map toField).find? (·.name == (memberOf source f).name) =
        some f.toField := by
      rw [List.find?_map]
      exact congrArg (Option.map toField) hfind
    rw [hfield] at hg
    cases hg
    rw [put, hfind]
    exact Slot.read_toJson hlegible r hrest

theorem Lawful.toJson_put (h : Lawful fields) (source : ρ) {g : InputField ρ} (hg : g ∈ fields)
    (m : Member) (r : ρ) :
    g.slot.toJson (put fields source m r) =
      g.slot.toJson (if g.name = m.name then source else r) := by
  unfold put
  cases hfind : fields.find? (·.name == m.name) with
  | none =>
    have hne : g.name ≠ m.name := by simpa using List.find?_eq_none.mp hfind g hg
    rw [if_neg hne]
  | some f =>
    have hname : f.name = m.name := by simpa using List.find?_some hfind
    rw [← hname]
    exact h.toJson_copy (List.mem_of_find?_eq_some hfind) hg source r

theorem Lawful.toJson_foldl_put (h : Lawful fields) (source : ρ) {g : InputField ρ} (hg : g ∈ fields)
    (ms : List Member) (r : ρ) :
    g.slot.toJson (ms.foldl (fun r m => put fields source m r) r) =
      g.slot.toJson (if g.name ∈ ms.map Member.name then source else r) := by
  induction ms generalizing r with
  | nil => rfl
  | cons m ms ih =>
    rw [List.foldl_cons, ih]
    by_cases hms : g.name ∈ ms.map Member.name
    · rw [if_pos hms, if_pos (by simp [hms])]
    · rw [if_neg hms, h.toJson_put source hg]
      simp only [List.map_cons, List.mem_cons, hms, or_false]

/-- The input with some fields back at their standard values. -/
def withdraw (fields : List (InputField ρ)) (removed : List String) (standard r : ρ) : ρ :=
  (fields.filter (·.name ∈ removed)).foldl (fun r f => f.slot.copy standard r) r

theorem Lawful.toJson_foldl_copy (h : Lawful fields) (source : ρ) {g : InputField ρ}
    (hg : g ∈ fields) {fs : List (InputField ρ)} (hfs : ∀ f ∈ fs, f ∈ fields) (r : ρ) :
    g.slot.toJson (fs.foldl (fun r f => f.slot.copy source r) r) =
      g.slot.toJson (if g.name ∈ names fs then source else r) := by
  induction fs generalizing r with
  | nil => rfl
  | cons f fs ih =>
    rw [List.foldl_cons, ih (fun f' hf' => hfs f' (by simp [hf']))]
    by_cases hmem : g.name ∈ names fs
    · rw [if_pos hmem, if_pos (by simpa using .inr (by simpa using hmem))]
    · rw [if_neg hmem, h.toJson_copy (hfs f (by simp)) hg]
      simp only [names, List.map_cons, List.mem_cons, hmem, or_false]

theorem mem_names_filter {g : InputField ρ} (hg : g ∈ fields) (removed : List String) :
    g.name ∈ names (fields.filter (·.name ∈ removed)) ↔ g.name ∈ removed := by
  constructor
  · intro h
    obtain ⟨f, hf, hname⟩ := List.mem_map.mp h
    rw [← hname]
    exact of_decide_eq_true (List.mem_filter.mp hf).2
  · intro h
    exact List.mem_map_of_mem (List.mem_filter.mpr ⟨hg, decide_eq_true h⟩)

theorem withdraw_nil (standard r : ρ) : withdraw fields [] standard r = r := by
  simp [withdraw]

theorem Lawful.toJson_withdraw (h : Lawful fields) (removed : List String) (standard : ρ)
    {g : InputField ρ} (hg : g ∈ fields) (r : ρ) :
    g.slot.toJson (withdraw fields removed standard r) =
      g.slot.toJson (if g.name ∈ removed then standard else r) := by
  rw [withdraw, h.toJson_foldl_copy standard hg fun f hf => (List.mem_filter.mp hf).1]
  simp only [mem_names_filter hg]

/-- The fields that were not removed, as members. -/
def kept (fields : List (InputField ρ)) (removed : List String) (r : ρ) : List Member :=
  (fields.filter (·.name ∉ removed)).map (memberOf r)

theorem mem_kept {removed : List String} {r : ρ} {m : Member} (h : m ∈ kept fields removed r) :
    ∃ f ∈ fields, f.name ∉ removed ∧ m = memberOf r f := by
  obtain ⟨f, hf, rfl⟩ := List.mem_map.mp h
  obtain ⟨hmem, hkept⟩ := List.mem_filter.mp hf
  exact ⟨f, hmem, of_decide_eq_true hkept, rfl⟩

/-- The members of a text of an input: the fields that were not removed, among unknown members, in
any order. -/
def Edited (fields : List (InputField ρ)) (removed : List String) (r : ρ) (ms : List Member) :
    Prop :=
  ∃ extra : List Member, (∀ m ∈ extra, m.name ∉ names fields) ∧
    ms.Perm (extra ++ kept fields removed r)

theorem Lawful.distinct_edited (h : Lawful fields) {removed : List String} {r : ρ}
    {ms : List Member} (hms : Edited fields removed r ms) : Distinct (fields.map toField) ms := by
  obtain ⟨extra, hextra, hperm⟩ := hms
  have hunknown : ∀ m ∈ extra, m.name ∉ knownNames (fields.map toField) := by
    rw [knownNames_toField]
    exact hextra
  refine Distinct.perm (List.pairwise_append.mpr ⟨?_, ?_, ?_⟩) hperm.symm
  · exact List.pairwise_of_forall_mem_list fun m hm _ _ _ => hunknown m hm
  · refine List.pairwise_map.mpr (List.Pairwise.filter _ ?_)
    exact (List.pairwise_map.mp h.nodup).imp fun hne heq => absurd heq hne
  · exact fun m hm _ _ _ => hunknown m hm

theorem mem_names_edited {removed : List String} {r : ρ} {ms : List Member}
    (hms : Edited fields removed r ms) {g : InputField ρ} (hg : g ∈ fields) :
    g.name ∈ ms.map Member.name ↔ g.name ∉ removed := by
  obtain ⟨extra, hextra, hperm⟩ := hms
  rw [(hperm.map _).mem_iff, List.map_append, List.mem_append]
  constructor
  · rintro (hmem | hmem)
    · obtain ⟨m, hm, hname⟩ := List.mem_map.mp hmem
      exact absurd (List.mem_map_of_mem hg) (hname ▸ hextra m hm)
    · obtain ⟨m, hm, hname⟩ := List.mem_map.mp hmem
      obtain ⟨f, hf, hkept, rfl⟩ := mem_kept hm
      rw [← hname]
      exact hkept
  · intro hkept
    have hmem : memberOf r g ∈ kept fields removed r :=
      List.mem_map_of_mem (List.mem_filter.mpr ⟨hg, decide_eq_true hkept⟩)
    exact .inr (List.mem_map_of_mem hmem)

/-- An input is read from the members that are left of it, whatever stands among them. -/
theorem Lawful.readInput_edited (h : Lawful fields) {removed : List String} {standard r : ρ}
    {ms : List Member} (hlegible : ∀ f ∈ fields, f.name ∉ removed → f.slot.Legible r)
    (hms : Edited fields removed r ms) (rest : List Char) :
    readInput fields standard (objectText ms ++ rest) =
      .ok (withdraw fields removed standard r, rest) := by
  have hfold : ms.foldl (fun r' m => put fields r m r') standard =
      withdraw fields removed standard r := by
    refine h.ext _ _ fun g hg => ?_
    rw [h.toJson_foldl_put r hg, h.toJson_withdraw removed standard hg]
    by_cases hremoved : g.name ∈ removed
    · rw [if_pos hremoved, if_neg fun hmem => (mem_names_edited hms hg).mp hmem hremoved]
    · rw [if_neg hremoved, if_pos ((mem_names_edited hms hg).mpr hremoved)]
  have hputs : ∀ m ∈ ms, Puts (fields.map toField) (put fields r) m := by
    obtain ⟨extra, hextra, hperm⟩ := hms
    intro m hm
    rcases List.mem_append.mp (hperm.mem_iff.mp hm) with hm | hm
    · exact puts_unknown r (hextra m hm)
    · obtain ⟨f, hf, hkept, rfl⟩ := mem_kept hm
      exact h.puts_memberOf hf (hlegible f hf hkept)
  have hrequired : ∀ f ∈ fields.map toField, f.required = true →
      f.name ∈ ([] : List String) ∨ f.name ∈ ms.map Member.name := by
    intro f hf hreq
    obtain ⟨g, -, rfl⟩ := List.mem_map.mp hf
    cases hreq
  have htold : Told (fields.map toField) rest [] standard ms _ :=
    told_fold hputs (h.distinct_edited hms) (fun _ _ _ => List.not_mem_nil) hrequired standard
  rw [readInput, readRecord_told htold, hfold]
  rfl

end InputField

/-! ## The gaits -/

theorem SlipWalk.inputs_ext (r r' : SlipWalk.Input Float)
    (h : ∀ f ∈ SlipWalk.inputFields, f.slot.toJson r = f.slot.toJson r') : r = r' := by
  cases r
  cases r'
  simp only [inputFields, List.forall_mem_cons, Slot.toJson, Json.real.injEq, Json.bool.injEq,
    Json.int.injEq, Int.natCast_inj, UInt8.toNat_inj] at h
  simp [h]

theorem CanonWalk.inputs_ext (r r' : CanonWalk.Input Float)
    (h : ∀ f ∈ CanonWalk.inputFields, f.slot.toJson r = f.slot.toJson r') : r = r' := by
  cases r
  cases r'
  simp only [inputFields, List.forall_mem_cons, Slot.toJson, Json.real.injEq, Json.int.injEq,
    Int.natCast_inj, UInt8.toNat_inj] at h
  simp [h]

theorem LegHop.inputs_ext (r r' : LegHop.Input Float)
    (h : ∀ f ∈ LegHop.inputFields, f.slot.toJson r = f.slot.toJson r') : r = r' := by
  cases r
  cases r'
  simp only [inputFields, List.forall_mem_cons, Slot.toJson, Json.real.injEq, Json.bool.injEq] at h
  simp [h]

theorem ConstForce.inputs_ext (r r' : ConstForce.Input Float)
    (h : ∀ f ∈ ConstForce.inputFields, f.slot.toJson r = f.slot.toJson r') : r = r' := by
  cases r
  cases r'
  simp only [inputFields, List.forall_mem_cons, Slot.toJson, Json.real.injEq] at h
  simp [h]

theorem SinWave.inputs_ext (r r' : SinWave.Input Float)
    (h : ∀ f ∈ SinWave.inputFields, f.slot.toJson r = f.slot.toJson r') : r = r' := by
  cases r
  cases r'
  simp only [inputFields, List.forall_mem_cons, Slot.toJson, Json.real.injEq] at h
  simp [h]

/-- The inputs of every gait are lawful: each field is one of the record, and none is left out. -/
theorem GaitName.lawful_inputFields (n : GaitName) : InputField.Lawful n.form.inputFields where
  nodup := by cases n <;> decide
  copy_self := by
    cases n
    all_goals repeat first
      | exact List.forall_mem_nil _
      | refine List.forall_mem_cons.mpr ⟨fun _ _ => rfl, ?_⟩
  independent := by
    cases n
    all_goals repeat' first
      | exact .nil
      | exact List.forall_mem_nil _
      | refine List.pairwise_cons.mpr ⟨?_, ?_⟩
      | refine List.forall_mem_cons.mpr ⟨fun _ _ => ⟨rfl, rfl⟩, ?_⟩
  ext := by
    cases n with
    | slipWalk => exact SlipWalk.inputs_ext
    | canonWalk => exact CanonWalk.inputs_ext
    | legHop => exact LegHop.inputs_ext
    | constForce => exact ConstForce.inputs_ext
    | sinWave => exact SinWave.inputs_ext

end BoomWalker
