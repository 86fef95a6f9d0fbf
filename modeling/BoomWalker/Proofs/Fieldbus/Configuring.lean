/-
The conversation with a master in which a connection is made.

Main statement: the master is asked to create the domain, to configure the slaves at the positions 0
and 1, to place the frames of both, to take the time, and to set up the clocks of both, in this
order. If the parameters are not valid nothing is asked at all, and after an operation that fails
nothing more of this is. Then the master is released, once and last, and the error is the one that
the failing operation gave. If all of it succeeds the master is not released, and the codec of each
leg has the place that the slave of the leg was given for its frames.

`Wiring.plan` is the whole conversation, and `BreaksOff` what has become of it when an operation
fails. A sequence of operations keeps to a plan (`Setup.KeepsTo`) if it carries it through or breaks
off.
-/
import BoomWalker.Fieldbus.Scripted
import BoomWalker.Proofs.Fieldbus.Record
import BoomWalker.Proofs.Fieldbus.SimSetup

namespace BoomWalker

variable {M α β γ : Type}

/-! ## Plans -/

/-- A record is that of a plan up to an operation that failed instead of giving its answer. -/
inductive BreaksOff (e : FieldbusError) : List MasterEntry → List MasterEntry → Prop
  /-- The first operation fails. -/
  | here (call : MasterCall) (answer : MasterAnswer) (rest : List MasterEntry) :
    BreaksOff e ((call, answer) :: rest) [(call, .failed e)]
  /-- The first operation gives its answer. -/
  | later (entry : MasterEntry) {plan record : List MasterEntry} :
    BreaksOff e plan record → BreaksOff e (entry :: plan) (entry :: record)

namespace BreaksOff

variable {e : FieldbusError} {plan record : List MasterEntry}

theorem append_right (h : BreaksOff e plan record) (rest : List MasterEntry) :
    BreaksOff e (plan ++ rest) record := by
  induction h with
  | here call answer rest' => exact .here call answer (rest' ++ rest)
  | later entry _ ih => exact .later entry ih

theorem append_left (start : List MasterEntry) (h : BreaksOff e plan record) :
    BreaksOff e (start ++ plan) (start ++ record) := by
  induction start with
  | nil => exact h
  | cons entry start ih => exact .later entry ih

/-- What was asked is the beginning of what the plan would have asked. -/
theorem calls_prefix (h : BreaksOff e plan record) :
    record.map Prod.fst <+: plan.map Prod.fst := by
  induction h with
  | here call answer rest => exact ⟨rest.map Prod.fst, rfl⟩
  | later entry _ ih => exact (List.prefix_cons_inj entry.1).mpr ih

end BreaksOff

namespace Setup

/-- A sequence carries a plan through or breaks it off. Which plans it may have, and with which
result it carries them through, is said by `P`. -/
def KeepsTo (x : Setup (Recorded M) β) (P : β → List MasterEntry → Prop) : Prop :=
  ∀ r, ∃ b plan, P b plan ∧
    ((∃ m, x.run r = (.ok b, ⟨m, r.record ++ plan⟩)) ∨
      ∃ e m record, BreaksOff e plan record ∧ x.run r = (.error e, ⟨m, r.record ++ record⟩))

theorem KeepsTo.pure {b : β} {P : β → List MasterEntry → Prop} (h : P b []) :
    KeepsTo (Pure.pure b : Setup (Recorded M) β) P := by
  intro r
  refine ⟨b, [], h, Or.inl ⟨r.master, ?_⟩⟩
  rw [List.append_nil]
  rfl

/-- An operation, and what follows it. -/
theorem KeepsTo.ask [Inhabited β] {call : MasterCall} {answer : β → MasterAnswer} {x : Setup M β}
    {f : β → Setup (Recorded M) γ} {P : γ → List MasterEntry → Prop}
    (h : ∀ b, KeepsTo (f b) fun c plan => P c ((call, answer b) :: plan)) :
    KeepsTo (Recorded.ask call answer x >>= f) P := by
  intro r
  cases hx : x.run r.master with
  | mk given m =>
    cases given with
    | error e =>
      -- Any answer gives a plan that breaks off here.
      obtain ⟨c, plan, hplan, -⟩ := h default r
      refine ⟨c, _, hplan, Or.inr ⟨e, m, _, .here call (answer default) plan, ?_⟩⟩
      rw [run_bind, Recorded.ask_error hx]
    | ok b =>
      obtain ⟨c, plan, hplan, hrest⟩ := h b ⟨m, r.record ++ [(call, answer b)]⟩
      refine ⟨c, _, hplan, ?_⟩
      rw [run_bind, Recorded.ask_ok hx]
      simp only [List.append_assoc, List.singleton_append] at hrest
      obtain ⟨m', hdone⟩ | ⟨e, m', record, hbreaks, hfailed⟩ := hrest
      · exact Or.inl ⟨m', hdone⟩
      · exact Or.inr ⟨e, m', _, .later _ hbreaks, hfailed⟩

end Setup

/-- The shift of the clocks can be computed if the offset leaves room for the part of a second in a
word of 64 bits. -/
theorem FieldbusParams.shift?_of_room {p : FieldbusParams α} (hcheck : p.check = .ok ())
    (hoffset : p.clockOffset + 999999999 < 2 ^ 64) (now : Nat) :
    ∃ shift, Clock.shift? p.cyclePeriod p.clockOffset now = some shift := by
  have hperiod : p.cyclePeriod ≠ 0 := by
    unfold check at hcheck
    split at hcheck
    · cases hcheck
    · split at hcheck
      · cases hcheck
      · next hperiod => exact hperiod
  have hsecond : now % Clock.nanosPerSecond < 1000000000 := Nat.mod_lt now (by decide)
  have hfits : now % Clock.nanosPerSecond + p.clockOffset ≤ Word.max64 := by
    unfold Word.max64
    omega
  refine ⟨p.cyclePeriod - (now % Clock.nanosPerSecond + p.clockOffset) % p.cyclePeriod, ?_⟩
  exact if_pos ⟨hfits, Nat.pos_of_ne_zero hperiod⟩

/-! ## The parts of the configuration -/

/-- What is agreed on for the slaves of the two legs. -/
structure Wiring where
  /-- Product codes. -/
  codes : Sided Nat
  /-- Identifiers that the master gave. -/
  ids : Sided Nat
  /-- Places that the master gave to the frames. -/
  offsets : Sided FrameOffsets

namespace Wiring

variable (w : Wiring) (p : FieldbusParams α)

def slavesPlan : List MasterEntry :=
  [(.createDomain, .done),
    (.slaveConfig 0 p.vendor w.codes.left, .slave w.ids.left),
    (.slaveConfig 1 p.vendor w.codes.right, .slave w.ids.right),
    (.configFrames w.ids.left CommandFrame.length StateFrame.length, .frames w.offsets.left),
    (.configFrames w.ids.right CommandFrame.length StateFrame.length, .frames w.offsets.right)]

def clocksPlan (shift : Nat) : List MasterEntry :=
  [(.configClock w.ids.left p.clockAssign p.cyclePeriod shift, .done),
    (.configClock w.ids.right p.clockAssign p.cyclePeriod shift, .done)]

/-- The conversation of a configuration that succeeds. -/
def plan (now shift : Nat) : List MasterEntry :=
  w.slavesPlan p ++ (.applicationTime now, .done) :: w.clocksPlan p shift

end Wiring

namespace Connection

variable [Master M]

theorem configureSlaves_keepsTo {p : FieldbusParams α} {a b : Nat}
    (hcodes : p.productCodes = [a, b]) :
    Setup.KeepsTo (configureSlaves p : Setup (Recorded M) _) fun found plan =>
      ∃ w : Wiring, p.productCodes = [w.codes.left, w.codes.right] ∧
        found = ([w.ids.left, w.ids.right], [w.offsets.left, w.offsets.right]) ∧
        plan = w.slavesPlan p := by
  unfold configureSlaves
  rw [hcodes]
  simp only [List.zipIdx, List.mapM_cons, List.mapM_nil, bind_assoc, pure_bind, List.take]
  refine .ask fun _ => .ask fun id₀ => .ask fun id₁ => .ask fun o₀ => .ask fun o₁ => .pure ?_
  exact ⟨⟨⟨a, b⟩, ⟨id₀, id₁⟩, ⟨o₀, o₁⟩⟩, rfl, rfl, rfl⟩

theorem configureClocks_keepsTo (p : FieldbusParams α) (w : Wiring) (shift : Nat) :
    Setup.KeepsTo (configureClocks p [w.ids.left, w.ids.right] shift : Setup (Recorded M) _)
      fun _ plan => plan = w.clocksPlan p shift := by
  unfold configureClocks
  simp only [List.forM]
  refine .ask fun _ => .ask fun _ => .pure ?_
  rfl

variable [Scalar α]

/-- How configuring goes on a master `m`, once the parameters are found valid: what it answers, and
what it leaves of the master. -/
inductive Configured (p : FieldbusParams α) (now : Nat) (w : Wiring) :
    Except ConfigureError (Connection (Recorded M) α) → Recorded M → Prop
  | slavesFailed {e : FieldbusError} {m : M} {record : List MasterEntry} :
    BreaksOff e (w.slavesPlan p) record →
    Configured p now w (.error (.bus e)) ⟨m, record ++ [(.release, .done)]⟩
  /-- The shift of the clocks cannot be computed. -/
  | unclocked {m : M} :
    Clock.shift? p.cyclePeriod p.clockOffset now = none →
    Configured p now w (.error .clockOverflow)
      ⟨m, w.slavesPlan p ++ [(.applicationTime now, .done)]⟩
  | clocksFailed {shift : Nat} {e : FieldbusError} {m : M} {record : List MasterEntry} :
    Clock.shift? p.cyclePeriod p.clockOffset now = some shift →
    BreaksOff e (w.plan p now shift) record →
    Configured p now w (.error (.bus e)) ⟨m, record ++ [(.release, .done)]⟩
  | done {shift : Nat} {m : M} :
    Clock.shift? p.cyclePeriod p.clockOffset now = some shift →
    Configured p now w
      (.ok ⟨p, ⟨⟨m, w.plan p now shift⟩,
        [.new .left true w.offsets.left, .new .right false w.offsets.right], false, false⟩,
        0, .zero, false, 0⟩)
      ⟨m, w.plan p now shift⟩

theorem configure_configured {p : FieldbusParams α} (hcheck : p.check = .ok ()) (now : Nat)
    (m : M) :
    ∃ w : Wiring, p.productCodes = [w.codes.left, w.codes.right] ∧
      Configured p now w (configure p now (Recorded.unasked m)).1
        (configure p now (Recorded.unasked m)).2 := by
  obtain ⟨a, b, hcodes⟩ := FieldbusParams.productCodes_of_check hcheck
  obtain ⟨found, plan, ⟨w, hwired, rfl, rfl⟩, hslaves⟩ :=
    configureSlaves_keepsTo (M := M) hcodes (.unasked m)
  refine ⟨w, hwired, ?_⟩
  unfold configure
  rw [hcheck]
  dsimp only
  obtain ⟨m₁, hslaves⟩ | ⟨e, m₁, record, hbreaks, hfailed⟩ := hslaves
  · rw [hslaves]
    dsimp only
    cases hshift : Clock.shift? p.cyclePeriod p.clockOffset now with
    | none => exact .unclocked hshift
    | some shift =>
      obtain ⟨_, plan, rfl, hclocks⟩ := configureClocks_keepsTo p w shift
        (Master.applicationTime now ⟨m₁, (Recorded.unasked m).record ++ w.slavesPlan p⟩)
      obtain ⟨m₂, hclocks⟩ | ⟨e, m₂, record, hbreaks, hfailed⟩ := hclocks
      · dsimp only
        rw [hclocks]
        exact .done hshift
      · dsimp only
        rw [hfailed]
        have hplan : BreaksOff e (w.plan p now shift)
            (w.slavesPlan p ++ [(.applicationTime now, .done)] ++ record) :=
          hbreaks.append_left (w.slavesPlan p ++ [(.applicationTime now, .done)])
        exact .clocksFailed hshift hplan
  · rw [hfailed]
    exact .slavesFailed hbreaks

end Connection

end BoomWalker
