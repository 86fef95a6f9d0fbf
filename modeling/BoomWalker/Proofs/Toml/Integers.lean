/-
Integers in parameter files.

A word that is read as an integer fits a signed word of 64 bits. Keys and headers of several parts
only make up records around values, so that every field of a file that is an integer was such a word
(`parse_inWord`). What a record takes for a natural number is below 2 ^ 63 then (`asNatural?_lt`).
-/
import BoomWalker.Json.Decode
import BoomWalker.Toml.Reader
import Mathlib.Algebra.Group.Nat.Defs

namespace BoomWalker

/-- Every answer is the answer for an item of the list. -/
theorem exists_of_mem_mapM {β γ : Type} {f : β → Option γ} {bs : List β} {cs : List γ}
    (h : bs.mapM f = some cs) : ∀ c ∈ cs, ∃ b ∈ bs, f b = some c := by
  induction bs generalizing cs with
  | nil =>
    cases h
    exact fun c hc => absurd hc List.not_mem_nil
  | cons b bs ih =>
    rw [List.mapM_cons] at h
    obtain ⟨c, hc, h⟩ := Option.bind_eq_some_iff.mp h
    obtain ⟨cs', hcs, h⟩ := Option.bind_eq_some_iff.mp h
    cases h
    refine List.forall_mem_cons.mpr ⟨⟨b, List.mem_cons_self, hc⟩, fun c' hc' => ?_⟩
    obtain ⟨b', hb', hf⟩ := ih hcs c' hc'
    exact ⟨b', List.mem_cons_of_mem b hb', hf⟩

/-- The value is no integer that a signed word of 64 bits has no room for. -/
def Json.InWord : Json → Prop
  | .int n => Word.fitsSigned64 n = true
  | _ => True

theorem Json.InWord.asNatural?_lt {v : Json} (h : v.InWord) {max n : Nat}
    (hn : v.asNatural? max = some n) : n < 2 ^ 63 := by
  cases v with
  | int i =>
    have hfits : -9223372036854775808 ≤ i ∧ i ≤ 9223372036854775807 := of_decide_eq_true h
    obtain ⟨hpos, hn⟩ := Option.ite_none_right_eq_some.mp hn
    cases hn
    omega
  | null | bool | real | str | arr | obj => cases hn

/-- The values of the fields that a record asks for are among its fields. -/
theorem Json.fields?_inWord {fields : List (String × Json)} (hfields : ∀ f ∈ fields, f.2.InWord)
    {names : List String} {vs : List Json} (h : (Json.obj fields).fields? names = some vs) :
    ∀ v ∈ vs, v.InWord := by
  intro v hv
  obtain ⟨name, -, hname⟩ := exists_of_mem_mapM h v hv
  unfold onlyField? at hname
  split at hname
  · next k v' honly =>
    cases hname
    have hmem : (k, v) ∈ fields.filter (·.1 == name) := honly ▸ List.mem_singleton_self _
    exact hfields (k, v) (List.mem_filter.mp hmem).1
  · cases hname

namespace Toml

/-! ## Words -/

variable {w cs : List Char} {ts rest : List Token} {v : Json}

theorem integer?_inWord {base : Nat} (h : integer? base cs = some v) : v.InWord := by
  unfold integer? at h
  dsimp only at h
  generalize (if base = 10 then sign cs else ([], cs)) = signed at h
  split at h
  · obtain ⟨hfits, h⟩ := Option.ite_none_right_eq_some.mp h
    cases h
    exact hfits
  · cases h

theorem finite?_inWord (h : finite? cs = some v) : v.InWord := by
  obtain ⟨x, -, h⟩ := Option.bind_eq_some_iff.mp h
  obtain ⟨-, h⟩ := Option.ite_none_right_eq_some.mp h
  cases h
  trivial

theorem real?_inWord {fraction : Option (List Char)} (h : real? w fraction ts = some (v, rest)) :
    v.InWord := by
  obtain ⟨⟨ds, suffix⟩, -, h⟩ := Option.bind_eq_some_iff.mp h
  cases fraction with
  | none =>
    obtain ⟨⟨e, ts'⟩, -, h⟩ := Option.bind_eq_some_iff.mp h
    obtain ⟨x, hx, h⟩ := Option.bind_eq_some_iff.mp h
    cases h
    exact finite?_inWord hx
  | some f =>
    dsimp only at h
    split at h
    · cases h
    · obtain ⟨⟨fs, suffix'⟩, -, h⟩ := Option.bind_eq_some_iff.mp h
      obtain ⟨⟨e, ts'⟩, -, h⟩ := Option.bind_eq_some_iff.mp h
      obtain ⟨x, hx, h⟩ := Option.bind_eq_some_iff.mp h
      cases h
      exact finite?_inWord hx

theorem named?_inWord (h : named? w = some v) : v.InWord := by
  unfold named? at h
  split at h
  · cases h
    trivial
  · split at h
    · cases h
      trivial
    · obtain ⟨-, h⟩ := Option.ite_none_right_eq_some.mp h
      cases h
      trivial

theorem number?_inWord (h : number? w ts = some (v, rest)) : v.InWord := by
  have hinteger {base : Nat} {cs : List Char} {ts' : List Token}
      (h : (integer? base cs).map (·, ts') = some (v, rest)) : v.InWord := by
    obtain ⟨x, hx, heq⟩ := Option.map_eq_some_iff.mp h
    cases heq
    exact integer?_inWord hx
  unfold number? at h
  split at h
  · exact hinteger h
  · exact hinteger h
  · exact hinteger h
  · split at h
    · exact real?_inWord h
    · split at h
      · exact real?_inWord h
      · cases h
      · split at h
        · next hx =>
          cases h
          exact named?_inWord hx
        · exact hinteger h

theorem wordValue?_inWord (h : wordValue? w ts = some (v, rest)) : v.InWord := by
  have hdate {timed : Bool} {ts' : List Token}
      (h : (date? timed ts').map (Json.null, ·) = some (v, rest)) : v.InWord := by
    obtain ⟨x, -, heq⟩ := Option.map_eq_some_iff.mp h
    cases heq
    trivial
  unfold wordValue? at h
  split at h
  · cases h
    trivial
  · split at h
    · cases h
      trivial
    · split at h
      · split at h
        · exact hdate h
        · split at h
          · exact hdate h
          · exact number?_inWord h
      · cases h

theorem valueWithin_inWord {n : Nat} (h : valueWithin n ts = some (v, rest)) : v.InWord := by
  match n, ts, h with
  | n + 1, t :: ts, h =>
    unfold valueWithin at h
    split at h
    · cases h
      trivial
    · exact wordValue?_inWord h
    · split at h
      · exact number?_inWord h
      · cases h
    · obtain ⟨⟨items, ts'⟩, -, h⟩ := Option.bind_eq_some_iff.mp h
      cases h
      trivial
    · split at h
      · cases h
        trivial
      · obtain ⟨⟨entries, ts'⟩, -, h⟩ := Option.bind_eq_some_iff.mp h
        obtain ⟨fields, -, h⟩ := Option.bind_eq_some_iff.mp h
        cases h
        trivial
    · cases h

/-! ## Lines -/

/-- The line holds no integer that is too large. -/
def Line.InWord : Line → Prop
  | .header _ _ => True
  | .entry e => e.value.InWord

theorem header?_inWord {l : Line} (h : header? ts = some (l, rest)) : l.InWord := by
  obtain ⟨⟨path, ts₁⟩, -, h⟩ := Option.bind_eq_some_iff.mp h
  obtain ⟨ts₂, -, h⟩ := Option.bind_eq_some_iff.mp h
  dsimp only at h
  split at h
  · obtain ⟨ts₃, -, h⟩ := Option.bind_eq_some_iff.mp h
    obtain ⟨ts₄, -, h⟩ := Option.bind_eq_some_iff.mp h
    cases h
    trivial
  · obtain ⟨ts₃, -, h⟩ := Option.bind_eq_some_iff.mp h
    cases h
    trivial

theorem line?_inWord {l : Line} (h : line? ts = some (l, rest)) : l.InWord := by
  unfold line? at h
  split at h
  · exact header?_inWord h
  · obtain ⟨⟨e, ts₁⟩, hentry, h⟩ := Option.bind_eq_some_iff.mp h
    obtain ⟨ts₂, -, h⟩ := Option.bind_eq_some_iff.mp h
    cases h
    obtain ⟨⟨path, ts₃⟩, -, hentry⟩ := Option.bind_eq_some_iff.mp hentry
    obtain ⟨ts₄, -, hentry⟩ := Option.bind_eq_some_iff.mp hentry
    obtain ⟨⟨v, ts₅⟩, hvalue, hentry⟩ := Option.bind_eq_some_iff.mp hentry
    cases hentry
    exact valueWithin_inWord hvalue

theorem lines?_inWord {n : Nat} {ls : List Line} (h : lines? n ts = some ls) :
    ∀ l ∈ ls, l.InWord := by
  induction n generalizing ts ls with
  | zero => cases h
  | succ n ih =>
    obtain ⟨ts₁, -, h⟩ := Option.bind_eq_some_iff.mp h
    split at h
    · cases h
      exact fun l hl => absurd hl List.not_mem_nil
    · obtain ⟨⟨l, ts₂⟩, hline, h⟩ := Option.bind_eq_some_iff.mp h
      obtain ⟨ls', hlines, h⟩ := Option.bind_eq_some_iff.mp h
      cases h
      exact List.forall_mem_cons.mpr ⟨line?_inWord hline, ih hlines⟩

variable {ls : List Line} {entries : List Entry} {fields : List (String × Json)}

/-- The entries before a header, and the lines from there on, are among the lines. -/
theorem spanEntries_inWord (h : ∀ l ∈ ls, l.InWord) :
    (∀ e ∈ (spanEntries ls).1, e.value.InWord) ∧ ∀ l ∈ (spanEntries ls).2, l.InWord := by
  induction ls with
  | nil => exact ⟨fun e he => absurd he List.not_mem_nil, h⟩
  | cons l ls ih =>
    cases l with
    | header path item => exact ⟨fun e he => absurd he List.not_mem_nil, h⟩
    | entry e =>
      obtain ⟨he, hls⟩ := List.forall_mem_cons.mp h
      obtain ⟨hentries, hrest⟩ := ih hls
      exact ⟨List.forall_mem_cons.mpr ⟨he, hentries⟩, hrest⟩

/-! ## Records -/

/-- Keys of several parts make up records, and other keys keep their values. -/
theorem nest_inWord {n : Nat} (hentries : ∀ e ∈ entries, e.value.InWord)
    (h : nest n entries = some fields) : ∀ f ∈ fields, f.2.InWord := by
  induction n generalizing entries fields with
  | zero =>
    cases entries with
    | nil =>
      cases h
      exact fun f hf => absurd hf List.not_mem_nil
    | cons e rest => cases h
  | succ n ih =>
    cases entries with
    | nil =>
      cases h
      exact fun f hf => absurd hf List.not_mem_nil
    | cons e rest =>
      obtain ⟨he, hrest⟩ := List.forall_mem_cons.mp hentries
      unfold nest at h
      -- A key has no parts, or one and keeps its value, or more and makes up a record.
      split at h
      · cases h
      · obtain ⟨-, h⟩ := Option.ite_none_left_eq_some.mp h
        obtain ⟨outer, houter, h⟩ := Option.bind_eq_some_iff.mp h
        cases h
        exact List.forall_mem_cons.mpr ⟨he, ih hrest houter⟩
      · obtain ⟨inner, -, h⟩ := Option.bind_eq_some_iff.mp h
        obtain ⟨outer, houter, h⟩ := Option.bind_eq_some_iff.mp h
        cases h
        refine List.forall_mem_cons.mpr ⟨trivial, ih (fun e he => ?_) houter⟩
        exact hrest e (List.mem_filter.mp he).1

theorem sections?_inWord {n : Nat} {tables : List Table} (hls : ∀ l ∈ ls, l.InWord)
    (h : sections? n ls = some tables) : ∀ t ∈ tables, ∀ f ∈ t.fields, f.2.InWord := by
  induction n generalizing ls tables with
  | zero => cases h
  | succ n ih =>
    cases ls with
    | nil =>
      cases h
      exact fun t ht => absurd ht List.not_mem_nil
    | cons l ls =>
      obtain ⟨-, htail⟩ := List.forall_mem_cons.mp hls
      cases l with
      | entry e => exact ih htail h
      | header path item =>
        obtain ⟨hentries, hrest⟩ := spanEntries_inWord htail
        obtain ⟨fields, hfields, h⟩ := Option.bind_eq_some_iff.mp h
        obtain ⟨tables', htables, h⟩ := Option.bind_eq_some_iff.mp h
        cases h
        exact List.forall_mem_cons.mpr ⟨nest_inWord hentries hfields, ih hrest htables⟩

theorem tables?_inWord {tables : List Table} (hls : ∀ l ∈ ls, l.InWord)
    (h : tables? ls = some tables) : ∀ t ∈ tables, ∀ f ∈ t.fields, f.2.InWord := by
  obtain ⟨hentries, hrest⟩ := spanEntries_inWord hls
  obtain ⟨sections, hsections, h⟩ := Option.bind_eq_some_iff.mp h
  have hfit := sections?_inWord hrest hsections
  split at h
  · cases h
    exact hfit
  · obtain ⟨fields, hfields, h⟩ := Option.bind_eq_some_iff.mp h
    cases h
    exact List.forall_mem_cons.mpr ⟨nest_inWord hentries hfields, hfit⟩

/-- Fields that are put behind others hold what is read for a list of things. -/
theorem append_inWord {β : Type} {read : β → Option (String × Json)} {xs : List β}
    {own : List (String × Json)} (hown : ∀ f ∈ own, f.2.InWord)
    (hread : ∀ x f, read x = some f → f.2.InWord)
    (h : (do return own ++ (← xs.mapM read)) = some fields) : ∀ f ∈ fields, f.2.InWord := by
  obtain ⟨values, hvalues, h⟩ := Option.bind_eq_some_iff.mp h
  cases h
  refine List.forall_mem_append.mpr ⟨hown, fun f hf => ?_⟩
  obtain ⟨x, -, hx⟩ := exists_of_mem_mapM hvalues f hf
  exact hread x f hx

/-- What stands for deeper tables is a list or a record. -/
theorem deeper_inWord {k : String} {f : String × Json} {gs : List Table} {begins : Table → Bool}
    {items : Option (List Json)} {below : Option (List (String × Json))}
    (h : (match gs with
      | [] => none
      | t :: _ =>
        if begins t then do return (k, Json.arr (← items)) else do return (k, Json.obj (← below))) =
      some f) : f.2.InWord := by
  cases gs with
  | nil => cases h
  | cons t gs =>
    dsimp only at h
    split at h
    · obtain ⟨values, -, h⟩ := Option.bind_eq_some_iff.mp h
      cases h
      trivial
    · obtain ⟨inner, -, h⟩ := Option.bind_eq_some_iff.mp h
      cases h
      trivial

/-- Below a depth stand the fields of the table at this depth, and then records and lists for the
deeper ones. -/
theorem fieldsBelow_inWord {n depth : Nat} {tables : List Table}
    (htables : ∀ t ∈ tables, ∀ f ∈ t.fields, f.2.InWord)
    (h : fieldsBelow n depth tables = some fields) : ∀ f ∈ fields, f.2.InWord := by
  cases n with
  | zero => cases h
  | succ n =>
    unfold fieldsBelow at h
    dsimp only at h
    -- At this depth there is no table, or one, or several, which are refused.
    split at h
    · refine append_inWord (fun f hf => absurd hf List.not_mem_nil) (fun x f hf => ?_) h
      exact deeper_inWord hf
    · next t hown =>
      split at h
      · cases h
      · have ht : t ∈ tables := by
          have hmem : t ∈ (tables.partition (·.header.length = depth)).1 :=
            hown ▸ List.mem_singleton_self t
          rw [List.partition_eq_filter_filter] at hmem
          exact (List.mem_filter.mp hmem).1
        exact append_inWord (htables t ht) (fun x f hf => deeper_inWord hf) h
    · cases h

theorem parse_inWord {s : String} (h : parse s = some v) :
    ∃ fields, v = .obj fields ∧ ∀ f ∈ fields, f.2.InWord := by
  obtain ⟨ts, -, h⟩ := Option.bind_eq_some_iff.mp h
  obtain ⟨ls, hlines, h⟩ := Option.bind_eq_some_iff.mp h
  obtain ⟨tables, htables, h⟩ := Option.bind_eq_some_iff.mp h
  obtain ⟨fields, hfields, h⟩ := Option.bind_eq_some_iff.mp h
  cases h
  exact ⟨fields, rfl, fieldsBelow_inWord (tables?_inWord (lines?_inWord hlines) htables) hfields⟩

end Toml

end BoomWalker
