/-
Packets of an operator, written and read.

A packet comes back from its text, and from every text that differs only in the order of its
members, in unknown members and in inputs that are left out: those take their standard values. Other
objects are refused: `enabled` and `params` must stand there, and no known member twice, at either
level (`packet_codec`).
-/
import BoomWalker.Proofs.Operator.Inputs

namespace BoomWalker

open Json

namespace OperatorPacket

variable {ι : Type} {inputs : List (InputField ι)} {standard : ι}

/-! ## Members of a packet -/

def enabledMember (b : Bool) : Member := .of "enabled" (.bool b)

/-- The inputs of a packet, as an object of the given members. -/
def paramsMember (inner : List Member) : Member where
  name := "params"
  key := "params".toList.flatMap escape
  value := objectText inner
  spells := spells_escape _
  written := written_objectText inner

theorem exactFields : ExactFields (fields inputs standard) := by
  intro f hf p
  simp only [fields, List.mem_cons, List.not_mem_nil, or_false] at hf
  rcases hf with rfl | rfl
  · exact RecordField.exact_of readBool_exact _ _ _ p
  · exact RecordField.exact_of (readRecord_exact InputField.exactFields true standard) _ _ _ p

/-- What a member puts into a packet that is read as `q`. -/
def put (q : OperatorPacket ι) (m : Member) (p : OperatorPacket ι) : OperatorPacket ι :=
  if m.name = "enabled" then { p with enabled := q.enabled }
  else if m.name = "params" then { p with params := q.params }
  else p

theorem foldl_put (q : OperatorPacket ι) (ms : List Member) (p : OperatorPacket ι) :
    ms.foldl (fun p m => put q m p) p =
      ⟨if "enabled" ∈ ms.map Member.name then q.enabled else p.enabled,
        if "params" ∈ ms.map Member.name then q.params else p.params⟩ := by
  induction ms generalizing p with
  | nil => rfl
  | cons m ms ih =>
    rw [List.foldl_cons, ih]
    by_cases he : m.name = "enabled"
    · simp [put, he]
    by_cases hp : m.name = "params"
    · simp [put, hp]
    · simp [put, he, hp, Ne.symm he, Ne.symm hp]

/-- The members of a text of a packet: whether it is enabled and the members of its inputs, among
unknown members, in any order. -/
def Edited (b : Bool) (inner outer : List Member) : Prop :=
  ∃ extra : List Member, (∀ m ∈ extra, m.name ∉ ["enabled", "params"]) ∧
    outer.Perm (extra ++ [enabledMember b, paramsMember inner])

theorem Edited.names {b : Bool} {inner outer : List Member} (h : Edited b inner outer) :
    "enabled" ∈ outer.map Member.name ∧ "params" ∈ outer.map Member.name := by
  obtain ⟨extra, -, hperm⟩ := h
  have henabled : enabledMember b ∈ outer := hperm.mem_iff.mpr (by simp)
  have hparams : paramsMember inner ∈ outer := hperm.mem_iff.mpr (by simp)
  exact ⟨List.mem_map_of_mem henabled, List.mem_map_of_mem hparams⟩

theorem Edited.distinct {b : Bool} {inner outer : List Member} (h : Edited b inner outer) :
    Distinct (fields inputs standard) outer := by
  obtain ⟨extra, hextra, hperm⟩ := h
  refine Distinct.perm (List.pairwise_append.mpr ⟨?_, ?_, ?_⟩) hperm.symm
  · exact List.pairwise_of_forall_mem_list fun m hm _ _ _ => hextra m hm
  · refine List.pairwise_pair.mpr fun heq => ?_
    exact absurd heq (by simp [enabledMember, paramsMember, Member.of])
  · exact fun m hm _ _ _ => hextra m hm

theorem puts_enabledMember (q : OperatorPacket ι) :
    Puts (fields inputs standard) (put q) (enabledMember q.enabled) := by
  refine ⟨fun hunknown => absurd List.mem_cons_self hunknown, fun f hf p rest _ => ?_⟩
  cases hf
  exact RecordField.of_read_ok (readBool_write q.enabled rest) _ _ _ p

theorem puts_paramsMember {q : OperatorPacket ι} {inner : List Member}
    (hinner : ∀ rest, InputField.readInput inputs standard (objectText inner ++ rest) =
      .ok (q.params, rest)) :
    Puts (fields inputs standard) (put q) (paramsMember inner) := by
  refine ⟨fun hunknown => absurd (List.mem_cons_of_mem _ List.mem_cons_self) hunknown,
    fun f hf p rest _ => ?_⟩
  cases hf
  exact RecordField.of_read_ok (hinner rest) _ _ _ p

theorem puts_unknown (q : OperatorPacket ι) {m : Member} (hm : m.name ∉ ["enabled", "params"]) :
    Puts (fields inputs standard) (put q) m := by
  refine ⟨fun _ p => ?_, fun f hf => ?_⟩
  · simp only [List.mem_cons, List.not_mem_nil, or_false, not_or] at hm
    rw [put, if_neg hm.1, if_neg hm.2]
  · rw [find?_eq_none_iff.mpr hm] at hf
    cases hf

theorem told_edited {q : OperatorPacket ι} {inner outer : List Member}
    (hinner : ∀ rest, InputField.readInput inputs standard (objectText inner ++ rest) =
      .ok (q.params, rest)) (houter : Edited q.enabled inner outer) :
    Told (fields inputs standard) [] [] ⟨false, standard⟩ outer (.ok q) := by
  have hnames := houter.names
  have hdistinct : Distinct (fields inputs standard) outer := houter.distinct
  have hputs : ∀ m ∈ outer, Puts (fields inputs standard) (put q) m := by
    obtain ⟨extra, hextra, hperm⟩ := houter
    intro m hm
    simp only [hperm.mem_iff, List.mem_append, List.mem_cons, List.not_mem_nil, or_false] at hm
    rcases hm with hm | rfl | rfl
    · exact puts_unknown q (hextra m hm)
    · exact puts_enabledMember q
    · exact puts_paramsMember hinner
  have hrequired : ∀ f ∈ fields inputs standard, f.required = true →
      f.name ∈ ([] : List String) ∨ f.name ∈ outer.map Member.name := by
    intro f hf _
    simp only [fields, List.mem_cons, List.not_mem_nil, or_false] at hf
    rcases hf with rfl | rfl
    · exact .inr hnames.1
    · exact .inr hnames.2
  have htold : Told (fields inputs standard) [] [] ⟨false, standard⟩ outer _ :=
    told_fold hputs hdistinct (fun _ _ _ => List.not_mem_nil) hrequired _
  rw [foldl_put, if_pos hnames.1, if_pos hnames.2] at htold
  exact htold

theorem ofText_of_told {outer : List Member} {outcome : Except ReadError (OperatorPacket ι)}
    (h : Told (fields inputs standard) [] [] ⟨false, standard⟩ outer outcome) :
    ofText inputs standard (String.ofList (objectText outer)) = outcome := by
  have hread : readRecord false (fields inputs standard) ⟨false, standard⟩ _ = _ :=
    readRecord_told h
  rw [List.append_nil] at hread
  rw [ofText, readAll, String.toList_ofList, read, hread]
  cases outcome <;> rfl

theorem told_of_ofText {outer : List Member} {q : OperatorPacket ι}
    (h : ofText inputs standard (String.ofList (objectText outer)) = .ok q) :
    Told (fields inputs standard) [] [] ⟨false, standard⟩ outer (.ok q) := by
  rw [ofText, readAll, String.toList_ofList, read] at h
  obtain ⟨⟨p, rest⟩, hread, h⟩ := of_bind_eq_ok h
  obtain rfl : p = q := by
    simp only at h
    split at h
    · exact Except.ok.inj h
    · cases h
  rw [← List.append_nil (objectText outer)] at hread
  exact told_of_readRecord exactFields hread

theorem refused {outer : List Member}
    (h : ∀ q, ¬ Told (fields inputs standard) [] [] ⟨false, standard⟩ outer (.ok q)) :
    ∃ e, ofText inputs standard (String.ofList (objectText outer)) = .error e := by
  cases hread : ofText inputs standard (String.ofList (objectText outer)) with
  | error e => exact ⟨e, rfl⟩
  | ok q => exact absurd (told_of_ofText hread) (h q)

/-! ## Texts of packets -/

/-- How the texts of packets are read, around one packet. -/
structure Codec (inputs : List (InputField ι)) (standard : ι) (p : OperatorPacket ι) : Prop where
  /-- The packet comes back from its own text. -/
  own : ofText inputs standard (p.toText inputs) = .ok p
  /-- Unknown members and the order of members do not matter, and inputs that are left out take their
  standard values. -/
  edited : ∀ removed inner outer, InputField.Edited inputs removed p.params inner →
    Edited p.enabled inner outer →
    ofText inputs standard (String.ofList (objectText outer)) =
      .ok ⟨p.enabled, InputField.withdraw inputs removed standard p.params⟩
  /-- Whether the packet is enabled, and its inputs, must be told. -/
  missing : ∀ outer : List Member, ∀ name ∈ ["enabled", "params"], name ∉ outer.map Member.name →
    ∃ e, ofText inputs standard (String.ofList (objectText outer)) = .error e
  /-- Neither may be told twice. -/
  repeated : ∀ outer : List Member, ∀ name ∈ ["enabled", "params"],
    1 < (outer.map Member.name).count name →
    ∃ e, ofText inputs standard (String.ofList (objectText outer)) = .error e
  /-- Nor may an input. -/
  repeated_input : ∀ outer inner : List Member, ∀ m ∈ outer, m.name = "params" →
    m.value = objectText inner →
    ∀ name ∈ InputField.names inputs, 1 < (inner.map Member.name).count name →
    ∃ e, ofText inputs standard (String.ofList (objectText outer)) = .error e

theorem toText_eq (p : OperatorPacket ι) :
    p.toText inputs = String.ofList (objectText
      [enabledMember p.enabled, paramsMember (InputField.kept inputs [] p.params)]) := by
  have hinner : (InputField.inputToJson inputs p.params).write =
      objectText (InputField.kept inputs [] p.params) := by
    rw [InputField.inputToJson, write_obj, InputField.kept, List.map_map,
      List.filter_eq_self.mpr (by simp)]
    rfl
  rw [toText, render, toJson, write_obj]
  simp only [List.map_cons, List.map_nil, enabledMember, paramsMember, Member.of, hinner]

/-- A known member that stands there was read. -/
theorem readInput_of_told {outer : List Member} {q : OperatorPacket ι} {m : Member}
    (h : Told (fields inputs standard) [] [] ⟨false, standard⟩ outer (.ok q)) (hm : m ∈ outer)
    (hname : m.name = "params") :
    ∃ p after, InputField.readInput inputs standard (m.value ++ after) = .ok p := by
  have hfind : (fields inputs standard).find? (·.name == m.name) =
      some (.of "params" true (InputField.readInput inputs standard)
        fun p i => { p with params := i }) := by
    rw [hname]
    rfl
  obtain ⟨p₀, p₁, after, hread⟩ := h.read hm hfind
  cases hvalue : InputField.readInput inputs standard (m.value ++ after) with
  | error e =>
    rw [RecordField.of_read_error hvalue] at hread
    cases hread
  | ok p => exact ⟨p, after, hvalue⟩

theorem codec (hinputs : InputField.Lawful inputs) {p : OperatorPacket ι}
    (hp : ∀ f ∈ inputs, f.slot.Legible p.params) : Codec inputs standard p := by
  have hedited : ∀ removed inner outer, InputField.Edited inputs removed p.params inner →
      Edited p.enabled inner outer →
      ofText inputs standard (String.ofList (objectText outer)) =
        .ok ⟨p.enabled, InputField.withdraw inputs removed standard p.params⟩ := by
    intro removed inner outer hinner houter
    refine ofText_of_told (told_edited ?_ houter)
    exact hinputs.readInput_edited (fun f hf _ => hp f hf) hinner
  refine ⟨?_, hedited, ?_, ?_, ?_⟩
  · have hown := hedited [] (InputField.kept inputs [] p.params) _ ⟨[], by simp, .refl _⟩
      ⟨[], by simp, .refl _⟩
    rw [InputField.withdraw_nil] at hown
    rw [toText_eq]
    exact hown
  · intro outer name hname hmissing
    refine refused fun q htold => ?_
    change name ∈ knownNames (fields inputs standard) at hname
    obtain ⟨f, hf, rfl⟩ := List.mem_map.mp hname
    have hrequired : f.required = true := by
      simp only [fields, List.mem_cons, List.not_mem_nil, or_false] at hf
      rcases hf with rfl | rfl <;> rfl
    rcases htold.required hf hrequired with hseen | hmem
    · cases hseen
    · exact hmissing hmem
  · intro outer name hname hcount
    refine refused fun q htold => ?_
    have honce := htold.once hname
    rw [if_neg List.not_mem_nil] at honce
    omega
  · intro outer inner m hm hname hvalue name hknown hcount
    refine refused fun q htold => ?_
    obtain ⟨i, after, hread⟩ := readInput_of_told htold hm hname
    rw [hvalue, InputField.readInput] at hread
    have honce := (told_of_readRecord InputField.exactFields hread).once
      (InputField.knownNames_toField ▸ hknown)
    rw [if_neg List.not_mem_nil] at honce
    omega

end OperatorPacket

/-- The packets of every gait, if their numbers come back from their numerals. -/
theorem GaitName.packet_codec (n : GaitName) (p : OperatorPacket n.gait.Input)
    (hp : ∀ f ∈ n.form.inputFields, f.slot.Legible p.params) :
    OperatorPacket.Codec n.form.inputFields n.gait.defaultInput p :=
  OperatorPacket.codec n.lawful_inputFields hp

theorem SlipWalk.standard_packet_codec :
    (∀ f ∈ SlipWalk.inputFields, f.slot.Legible (SlipWalk.Input.standard : SlipWalk.Input Float)) ∧
      OperatorPacket.Codec SlipWalk.inputFields SlipWalk.Input.standard
        ⟨true, SlipWalk.Input.standard⟩ := by
  have hlegible : ∀ f ∈ SlipWalk.inputFields,
      f.slot.Legible (SlipWalk.Input.standard : SlipWalk.Input Float) := by
    repeat first
      | exact List.forall_mem_nil _
      | refine List.forall_mem_cons.mpr ⟨trivial, ?_⟩
      | refine List.forall_mem_cons.mpr ⟨⟨rfl, rfl⟩, ?_⟩
  exact ⟨hlegible, GaitName.packet_codec .slipWalk _ hlegible⟩

end BoomWalker
