/-
What the operations of a connection do to it, said once for each.

A cycle consists of two halves, between which the handles may submit commands. What the second half
does with the states of the legs depends on two things only: whether the slaves are operational now,
and whether they were in the cycle before (`Received`).
-/
import BoomWalker.Fieldbus.Connection

namespace BoomWalker

namespace Connection

variable {M α : Type} [Master M]

/-- What the master of a connection reports of the link. -/
def linkState (c : Connection M α) : LinkState := Master.linkState c.link.master

/-! ## Configuring, starting and submitting -/

section Scalar

variable [Scalar α]

/-- A configured connection is idle, over a master whose slaves, frames and clocks are set up. -/
theorem configure_ok {p : FieldbusParams α} {now : Nat} {m : M} {c : Connection M α}
    (h : (configure p now m).1 = .ok c) :
    p.check = .ok () ∧ ∃ ids offsets m₁ shift m₂,
      (configureSlaves p).run m = (.ok (ids, offsets), m₁) ∧
      (configureClocks p ids shift).run (Master.applicationTime now m₁) = (.ok (), m₂) ∧
      c = ⟨p, ⟨m₂, medullas offsets, false, false⟩, 0, .zero, false, 0⟩ := by
  unfold configure at h
  split at h
  · cases h
  · next hcheck =>
    refine ⟨hcheck, ?_⟩
    split at h
    · cases h
    · next ids offsets m₁ hslaves =>
      dsimp only at h
      split at h
      · cases h
      · next shift hshift =>
        split at h
        · cases h
        · next m₂ hclocks =>
          cases h
          exact ⟨ids, offsets, m₁, shift, m₂, hslaves, hclocks, rfl⟩

end Scalar

/-- A failed start changes nothing but the master; a successful one begins afresh. -/
theorem start_cases (c : Connection M α) :
    (∃ e m, (Master.activate : Setup M Unit).run c.link.master = (.error e, m) ∧
      c.start = (.error e, { c with link.master := m })) ∨
    ∃ m, (Master.activate : Setup M Unit).run c.link.master = (.ok (), m) ∧
      c.start = (.ok (), { c with
        link := { c.link with master := m, inOp := false }
        running := true
        syncCounter := 0 }) := by
  unfold start
  cases hactivate : (Master.activate : Setup M Unit).run c.link.master with
  | mk answer m =>
    cases answer with
    | error e => exact Or.inl ⟨e, m, rfl, rfl⟩
    | ok _ => exact Or.inr ⟨m, rfl, rfl⟩

/-! ## The halves of a cycle -/

variable [Transmit α]

/-- The connection when the frame of a cycle comes back. -/
def underway (c : Connection M α) (now : Nat) (between : List (Command α)) : Connection M α :=
  between.foldl submit (c.sendPhase now)

/-- Submitting concerns the master and the codecs only. -/
theorem submits_keep (c : Connection M α) (cmds : List (Command α)) :
    (cmds.foldl submit c).running = c.running ∧
      (cmds.foldl submit c).link.inOp = c.link.inOp ∧
      (cmds.foldl submit c).snapshot = c.snapshot := by
  induction cmds generalizing c with
  | nil => exact ⟨rfl, rfl, rfl⟩
  | cons cmd cmds ih => exact ih (c.submit cmd)

theorem underway_keep (c : Connection M α) (now : Nat) (between : List (Command α)) :
    (c.underway now between).running = c.running ∧
      (c.underway now between).link.inOp = c.link.inOp ∧
      (c.underway now between).snapshot = c.snapshot :=
  submits_keep (c.sendPhase now) between

theorem cycle_of_running {c : Connection M α} (h : c.running = true) (now : Nat)
    (between : List (Command α)) :
    c.cycle now between =
      (.ok (c.underway now between).receivePhase.1, (c.underway now between).receivePhase.2) := by
  unfold cycle
  rw [if_pos h]
  rfl

theorem cycle_of_stopped {c : Connection M α} (h : c.running = false) (now : Nat)
    (between : List (Command α)) : c.cycle now between = (.error .notRunning, c) := by
  unfold cycle
  rw [h]
  rfl

/-- What is received in a cycle, given whether the slaves were operational in the cycle before: a
connection `c` becomes `c'` and delivers `s`. -/
structure Received (up : Prop) (c : Connection M α) (s : Option (Snapshot α))
    (c' : Connection M α) : Prop where
  /-- The slaves are operational for the second time in a row: the states of all legs are
  decoded. -/
  decoded : c'.linkState = .op → up →
    s = some c'.snapshot ∧ (c'.link.slaves, c'.snapshot) =
      Medulla.decodeAll (Master.domain c'.link.master) c.link.slaves c.snapshot
  /-- The slaves have become operational: every codec is set up, and nothing is decoded. -/
  setUp : c'.linkState = .op → ¬ up →
    s = none ∧ c'.snapshot = c.snapshot ∧
      c'.link.slaves = c.link.slaves.map (·.postOp (Master.domain c'.link.master))
  /-- The slaves are not operational: the codecs are left alone. -/
  withheld : c'.linkState ≠ .op →
    s = none ∧ c'.snapshot = c.snapshot ∧ c'.link.slaves = c.link.slaves

theorem Received.isSome_iff {up : Prop} {c c' : Connection M α} {s : Option (Snapshot α)}
    (h : Received up c s c') : s.isSome = true ↔ c'.linkState = .op ∧ up := by
  by_cases hop : c'.linkState = .op
  · by_cases hup : up
    · rw [(h.decoded hop hup).1]
      exact iff_of_true rfl ⟨hop, hup⟩
    · rw [(h.setUp hop hup).1]
      exact iff_of_false Bool.false_ne_true fun hboth => hup hboth.2
  · rw [(h.withheld hop).1]
    exact iff_of_false Bool.false_ne_true fun hboth => hop hboth.1

/-- The second half of a cycle. It notes whether the slaves are operational. -/
theorem receivePhase_received (c : Connection M α) :
    Received (c.link.inOp = true) c c.receivePhase.1 c.receivePhase.2 ∧
      (c.receivePhase.2.link.inOp = true ↔ c.receivePhase.2.linkState = .op) ∧
      c.receivePhase.2.running = c.running ∧
      c.receivePhase.2.link.master = Master.processDomain (Master.receive c.link.master) := by
  -- The three branches of the receiving half are the three fields of `Received`.
  unfold receivePhase
  dsimp only
  split
  · next hop =>
    split
    · next hup =>
      refine ⟨⟨fun _ _ => ⟨rfl, rfl⟩, fun _ hdown => absurd hup hdown, fun hnot => absurd hop hnot⟩,
        iff_of_true hup hop, rfl, rfl⟩
    · next hdown =>
      exact ⟨⟨fun _ hup => absurd hup hdown, fun _ _ => ⟨rfl, rfl, rfl⟩,
        fun hnot => absurd hop hnot⟩, iff_of_true rfl hop, rfl, rfl⟩
  · next hnot =>
    exact ⟨⟨fun hop => absurd hop hnot, fun hop => absurd hop hnot, fun _ => ⟨rfl, rfl, rfl⟩⟩,
      iff_of_false Bool.false_ne_true hnot, rfl, rfl⟩

end Connection

/-! ## Events -/

namespace Bus

variable {M α : Type} [Master M] [Transmit α] {c c' : Connection M α} {e : FieldbusError}

theorem run_cons (b : Bus M α) (e : BusEvent α) (es : List (BusEvent α)) :
    (b.run (e :: es)).1 = ((b.step e).1.run es).1 := rfl

theorem run_append (b : Bus M α) (es fs : List (BusEvent α)) :
    (b.run (es ++ fs)).1 = ((b.run es).1.run fs).1 := by
  induction es generalizing b with
  | nil => rfl
  | cons e es ih => exact ih (b.step e).1

theorem step_start_ok (h : c.start = (.ok (), c')) :
    (connected c).step .start = (connected c', .done) := by
  simp only [step, h]

theorem step_start_error (h : c.start = (.error e, c')) :
    (connected c).step .start = (connected c', .failed e) := by
  simp only [step, h]

theorem step_cycle_ok {now : Nat} {between : List (Command α)} {s : Option (Snapshot α)}
    (h : c.cycle now between = (.ok s, c')) :
    (connected c).step (.cycle now between) = (connected c', .state s) := by
  simp only [step, h]

theorem step_cycle_error {now : Nat} {between : List (Command α)}
    (h : c.cycle now between = (.error e, c')) :
    (connected c).step (.cycle now between) = (connected c', .failed e) := by
  simp only [step, h]

end Bus

end BoomWalker
