/-
Telemetry packets, written and read.

The reader of packets answers the text of a packet in one of two ways. If its time and its currents
have numerals, and the numbers in it come back from their numerals, then the packet comes back, with
its report as it was written (`ofText_toText`). If one of them has none then `null` stands in its
place, and the text is refused whatever else stands there (`refused_toText`).
-/
import BoomWalker.Proofs.Json.Values
import BoomWalker.Telemetry.Packet

namespace BoomWalker

open Json

/-! ## What the text of a value tells -/

namespace Json

variable {β ρ : Type}

/-- The text of a value tells a reader something, in front of whatever may follow it. -/
def Tells (reader : Reader β) (v : Json) (b : β) : Prop :=
  ∀ after, Stops after → reader (v.write ++ after) = .ok (b, after)

/-- The text of a value is refused by a reader. -/
def Refuses (reader : Reader β) (v : Json) : Prop :=
  ∀ after, ∃ e, reader (v.write ++ after) = .error e

section Fields

variable {fields : List (RecordField ρ)} {rest : List Char} {seen : List String} {r : ρ}
  {name : String} {v : Json} {ms : List Member} {required : Bool} {value : Reader β}
  {put : ρ → β → ρ}

theorem Told.next {b : β} {outcome : Except ReadError ρ}
    (hfind : fields.find? (·.name == name) = some (.of name required value put))
    (hnew : name ∉ seen) (hvalue : Tells value v b)
    (h : Told fields rest (name :: seen) (put r b) ms outcome) :
    Told fields rest seen r (.of name v :: ms) outcome :=
  .cons (.known hfind hnew (RecordField.of_read_ok (hvalue _ (stops_membersText ms rest)) _ _ _ r)) h

/-- Members that tell no record. -/
def Fails (fields : List (RecordField ρ)) (rest : List Char) (seen : List String) (r : ρ)
    (ms : List Member) : Prop :=
  ∃ e, Told fields rest seen r ms (.error e)

theorem Fails.stop (hfind : fields.find? (·.name == name) = some (.of name required value put))
    (hnew : name ∉ seen) (hvalue : Refuses value v) :
    Fails fields rest seen r (.of name v :: ms) := by
  obtain ⟨e, he⟩ := hvalue (membersText ms ++ rest)
  exact ⟨e, .refused hfind hnew (RecordField.of_read_error he _ _ _ r)⟩

theorem Fails.next {b : β}
    (hfind : fields.find? (·.name == name) = some (.of name required value put))
    (hnew : name ∉ seen) (hvalue : Tells value v b)
    (h : Fails fields rest (name :: seen) (put r b) ms) :
    Fails fields rest seen r (.of name v :: ms) := by
  obtain ⟨e, he⟩ := h
  exact ⟨e, .next hfind hnew hvalue he⟩

/-- Members that will fail do so whatever is made of a value before that. -/
theorem Fails.pass (hfind : fields.find? (·.name == name) = some (.of name required value put))
    (hnew : name ∉ seen) (hexact : Exact value)
    (h : ∀ b, Fails fields rest (name :: seen) (put r b) ms) :
    Fails fields rest seen r (.of name v :: ms) := by
  cases hread : value (v.write ++ (membersText ms ++ rest)) with
  | error e => exact ⟨e, .refused hfind hnew (RecordField.of_read_error hread _ _ _ r)⟩
  | ok p =>
    obtain ⟨b, after⟩ := p
    obtain rfl := hexact.leaves (written_write v) (stops_membersText ms rest) hread
    obtain ⟨e, he⟩ := h b
    exact ⟨e, .cons (.known hfind hnew (RecordField.of_read_ok hread _ _ _ r)) he⟩

variable {members : List (String × Json)} {short : Bool}

theorem tells_obj {r' : ρ}
    (h : ∀ rest, Told fields rest [] r (members.map fun f => .of f.1 f.2) (.ok r')) :
    Tells (readRecord short fields r) (.obj members) r' := by
  intro after _
  rw [write_obj, readRecord_told (h after)]
  rfl

theorem refuses_obj
    (h : ∀ rest, Fails fields rest [] r (members.map fun f => .of f.1 f.2)) :
    Refuses (readRecord short fields r) (.obj members) := by
  intro after
  obtain ⟨e, he⟩ := h after
  rw [write_obj, readRecord_told he]
  exact ⟨e, rfl⟩

end Fields

theorem readAll_tells {reader : Reader β} {v : Json} {b : β} (h : Tells reader v b) :
    readAll reader v.render = .ok b := by
  have hread := h [] trivial
  rw [List.append_nil] at hread
  rw [readAll, render, String.toList_ofList, hread]
  rfl

theorem readAll_refuses {reader : Reader β} {v : Json} (h : Refuses reader v) :
    ∃ e, readAll reader v.render = .error e := by
  obtain ⟨e, he⟩ := h []
  rw [List.append_nil] at he
  refine ⟨e, ?_⟩
  rw [readAll, render, String.toList_ofList, he]
  rfl

theorem tells_real {x : Float} (hx : HasNumeral x) (hback : ReadsBack x) :
    Tells readReal (.real x) x := by
  intro after hafter
  rw [write, readReal_writeReal hx hback hafter]

theorem refuses_real {x : Float} (hx : ¬ HasNumeral x) : Refuses readReal (.real x) := by
  intro after
  rw [write, readReal_writeReal_null hx]
  exact ⟨_, rfl⟩

theorem tells_natural {n : Nat} (hn : n ≤ Word.max64) :
    Tells (readNatural Word.max64) (.int n) n := by
  intro after hafter
  rw [write, readNatural_writeInt le_rfl hn hafter]

theorem tells_bool (b : Bool) : Tells readBool (.bool b) b :=
  fun after _ => readBool_write b after

theorem tells_str (s : String) : Tells readString (.str s) s :=
  fun after _ => readString_writeQuoted s after

end Json

/-! ## Commands -/

namespace LegCurrents

theorem read_exact : Exact read := by
  refine readRecord_exact (fun f hf c => ?_) false zero
  simp only [fields, List.mem_cons, List.not_mem_nil, or_false] at hf
  rcases hf with rfl | rfl | rfl <;> exact RecordField.exact_of readReal_exact _ _ _ c

theorem tells {c : LegCurrents Float} (hc : ∀ x ∈ c.toList, HasNumeral x ∧ ReadsBack x) :
    Tells read c.toJson c := by
  simp only [toList, List.forall_mem_cons] at hc
  obtain ⟨ha, hb, hhip, -⟩ := hc
  refine tells_obj fun rest => ?_
  simp only [List.map_cons, List.map_nil]
  exact .next rfl (by decide) (tells_real ha.1 ha.2) <|
    .next rfl (by decide) (tells_real hb.1 hb.2) <|
    .next rfl (by decide) (tells_real hhip.1 hhip.2) (.done (by decide))

theorem refuses {c : LegCurrents Float} (hc : ∃ x ∈ c.toList, ¬ HasNumeral x) :
    Refuses read c.toJson := by
  refine refuses_obj fun rest => ?_
  obtain ⟨x, hmem, hx⟩ := hc
  simp only [toList, List.mem_cons, List.not_mem_nil, or_false] at hmem
  simp only [List.map_cons, List.map_nil]
  rcases hmem with rfl | rfl | rfl
  · exact .stop rfl (by decide) (refuses_real hx)
  · exact .pass rfl (by decide) readReal_exact fun a => .stop rfl (by decide) (refuses_real hx)
  · exact .pass rfl (by decide) readReal_exact fun a =>
      .pass rfl (by decide) readReal_exact fun b => .stop rfl (by decide) (refuses_real hx)

theorem reals_toJson (c : LegCurrents Float) : c.toJson.reals = c.toList := rfl

end LegCurrents

theorem CommandCode.tells (code : CommandCode) :
    Tells CommandCode.read (.str code.name) code := by
  intro after _
  have htext : (Json.str code.name).write ++ after =
      '"' :: (code.name.toList.flatMap escape ++ '"' :: after) := by
    simp [write, writeQuoted]
  rw [htext, CommandCode.read, skipBlank_of_not_blank rfl]
  simp only [bind, Except.bind, readQuoted_escape]
  cases code <;> rfl

namespace Command

/-- The currents of a command. -/
def currents (c : Command Float) : List Float := c.legs.left.toList ++ c.legs.right.toList

theorem tells {c : Command Float} (hc : ∀ x ∈ c.currents, HasNumeral x ∧ ReadsBack x) :
    Tells read c.toJson c := by
  obtain ⟨hleft, hright⟩ := List.forall_mem_append.mp hc
  refine tells_obj fun rest => ?_
  simp only [List.map_cons, List.map_nil]
  exact .next rfl (by decide) (LegCurrents.tells hleft) <|
    .next rfl (by decide) (LegCurrents.tells hright) <|
    .next rfl (by decide) c.code.tells (.done (by decide))

theorem refuses {c : Command Float} (hc : ∃ x ∈ c.currents, ¬ HasNumeral x) :
    Refuses read c.toJson := by
  refine refuses_obj fun rest => ?_
  obtain ⟨x, hmem, hx⟩ := hc
  simp only [List.map_cons, List.map_nil]
  rcases List.mem_append.mp hmem with hmem | hmem
  · exact .stop rfl (by decide) (LegCurrents.refuses ⟨x, hmem, hx⟩)
  · exact .pass rfl (by decide) LegCurrents.read_exact fun left =>
      .stop rfl (by decide) (LegCurrents.refuses ⟨x, hmem, hx⟩)

theorem reals_toJson (c : Command Float) : c.toJson.reals = c.currents := rfl

end Command

/-! ## Packets -/

namespace TelemetryPacket

/-- The numbers of a packet that its reader expects as numbers. -/
def numbers (p : TelemetryPacket) : List Float := p.time :: p.command.currents

/-- A packet with its report as it is written. -/
def asWritten (p : TelemetryPacket) : TelemetryPacket := { p with report := p.report.asWritten }

theorem reals_toJson (p : TelemetryPacket) : p.toJson.reals = p.numbers ++ p.report.reals := by
  simp only [toJson, reals_obj, List.flatMap_cons, List.flatMap_nil, Command.reals_toJson]
  simp [reals, numbers]

/-- A packet comes back from its text, with its report as it was written, if its time and its
currents have numerals. -/
theorem ofText_toText {p : TelemetryPacket} (hcycles : p.numCycles ≤ Word.max64)
    (hreport : Fits Word.max64 (maxDepth - 1) p.report) (hp : ∀ x ∈ p.numbers, HasNumeral x)
    (hback : ∀ x ∈ p.toJson.reals, HasNumeral x → ReadsBack x) :
    ofText p.toText = .ok p.asWritten := by
  rw [reals_toJson] at hback
  obtain ⟨hback, hreportBack⟩ := List.forall_mem_append.mp hback
  have hnumbers : ∀ x ∈ p.numbers, HasNumeral x ∧ ReadsBack x :=
    fun x hx => ⟨hp x hx, hback x hx (hp x hx)⟩
  obtain ⟨htime, hcommand⟩ := List.forall_mem_cons.mp hnumbers
  have hvalue : Tells (readValue (maxDepth - 1)) p.report p.report.asWritten :=
    fun _ hafter => readValue_write hreport hreportBack hafter
  refine readAll_tells (tells_obj fun rest => ?_)
  simp only [List.map_cons, List.map_nil]
  exact .next rfl (by decide) (tells_real htime.1 htime.2) <|
    .next rfl (by decide) (tells_natural hcycles) <|
    .next rfl (by decide) (tells_bool p.safe) <|
    .next rfl (by decide) (tells_str p.safeCause) <|
    .next rfl (by decide) (tells_bool p.link) <|
    .next rfl (by decide) (Command.tells hcommand) <|
    .next rfl (by decide) hvalue (.done (by decide))

/-- A packet whose time or one of whose currents has no numeral is refused, whatever else stands in
its text. -/
theorem refused_toText {p : TelemetryPacket} (hp : ∃ x ∈ p.numbers, ¬ HasNumeral x) :
    ∃ e, ofText p.toText = .error e := by
  refine readAll_refuses (refuses_obj fun rest => ?_)
  obtain ⟨x, hmem, hx⟩ := hp
  simp only [List.map_cons, List.map_nil]
  rcases List.mem_cons.mp hmem with rfl | hmem
  · exact .stop rfl (by decide) (refuses_real hx)
  -- The reader comes to the command before it comes to the report.
  exact .pass rfl (by decide) readReal_exact fun time =>
    .pass rfl (by decide) (readNatural_exact _) fun n =>
    .next rfl (by decide) (tells_bool p.safe) <|
    .next rfl (by decide) (tells_str p.safeCause) <|
    .next rfl (by decide) (tells_bool p.link) <|
    .stop rfl (by decide) (Command.refuses ⟨x, hmem, hx⟩)

end TelemetryPacket

end BoomWalker
