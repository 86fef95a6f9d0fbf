/-
What becomes of the frames that a simulated master sends.

Frames may be sent, received and processed in any order and number. A frame that waits to be
received is given up when another is sent, and one that waits to be processed when the next is
received, so that no frame is processed twice (`Transit.Ordered`): the frames that were processed,
the one that waits to be processed and the one that waits to be received stand in the order in which
they were sent.

Main statement (`run_processes`): a master never processes more frames than it has sent, its link
never falls back, and its slaves count an update exactly when a frame is processed while they are
operational. They read the domain as it was when it was sent last, which may be a later frame than
the one that was received.
-/
import BoomWalker.Proofs.Fieldbus.Delivery
import BoomWalker.Proofs.Fieldbus.SimPlaces
import Mathlib.Data.Finset.Card
import Mathlib.Order.Interval.Finset.Nat

namespace BoomWalker.SimMaster

variable {α : Type}

/-! ## Frames on the way -/

/-- Where the frames are. They are numbered from one in the order in which they are sent. -/
structure Transit where
  sends : Nat
  /-- The frame that waits to be received. -/
  sent : Option Nat
  /-- The frame that waits to be processed. -/
  received : Option Nat
  /-- The frames that were processed, in order. -/
  processed : List Nat

/-- An operation of cycling: it does not activate the master, and leaves the domain as long as it
is. -/
def Operation.Cycles (length : Nat) : Operation α → Prop
  | activate => False
  | write bytes => bytes.length = length
  | _ => True

namespace Transit

def none : Transit := ⟨0, .none, .none, []⟩

/-- Where the frames are after an operation. -/
def next (t : Transit) : Operation α → Transit
  | .send => { t with sends := t.sends + 1, sent := some (t.sends + 1) }
  | .receive => { t with sent := .none, received := t.sent }
  | .processDomain =>
    { t with received := .none, processed := t.processed ++ t.received.toList }
  | _ => t

/-- Where the frames are after some operations. -/
def after (t : Transit) (ops : List (Operation α)) : Transit := ops.foldl next t

theorem after_append (t : Transit) (ops ops' : List (Operation α)) :
    t.after (ops ++ ops') = (t.after ops).after ops' :=
  List.foldl_append

/-- The frames that were not given up. -/
def line (t : Transit) : List Nat := t.processed ++ (t.received.toList ++ t.sent.toList)

/-- The frames that were not given up stand in the order in which they were sent. -/
structure Ordered (t : Transit) : Prop where
  rising : t.line.Pairwise (· < ·)
  sent : ∀ k ∈ t.line, 0 < k ∧ k ≤ t.sends

variable {t : Transit}

/-- Frames that are given up leave the others in order. -/
theorem Ordered.of_sublist {t' : Transit} (h : t.Ordered) (hline : t'.line.Sublist t.line)
    (hsends : t'.sends = t.sends) : t'.Ordered :=
  ⟨h.rising.sublist hline, fun k hk => hsends ▸ h.sent k (hline.subset hk)⟩

theorem Ordered.next (h : t.Ordered) (op : Operation α) : (t.next op).Ordered := by
  cases op with
  | send =>
    -- The frame sent now takes the place of the one that waited, and is the latest of all.
    have hkept : (t.processed ++ t.received.toList).Sublist t.line := by
      unfold line
      rw [← List.append_assoc]
      exact List.sublist_append_left _ _
    have hline : (t.next (.send : Operation α)).line =
        t.processed ++ t.received.toList ++ [t.sends + 1] :=
      (List.append_assoc _ _ _).symm
    constructor
    · rw [hline, List.pairwise_append]
      refine ⟨h.rising.sublist hkept, List.pairwise_singleton _ _, fun k hk j hj => ?_⟩
      obtain rfl := List.mem_singleton.mp hj
      exact Nat.lt_succ_of_le (h.sent k (hkept.subset hk)).2
    · intro k hk
      rw [hline] at hk
      show 0 < k ∧ k ≤ t.sends + 1
      obtain hk | hk := List.mem_append.mp hk
      · obtain ⟨hpos, hle⟩ := h.sent k (hkept.subset hk)
        exact ⟨hpos, hle.trans (Nat.le_succ _)⟩
      · obtain rfl := List.mem_singleton.mp hk
        exact ⟨Nat.succ_pos _, le_rfl⟩
  | receive =>
    refine h.of_sublist ?_ rfl
    show (t.processed ++ (t.sent.toList ++ [])).Sublist t.line
    rw [List.append_nil]
    exact (List.sublist_append_right _ _).append_left _
  | processDomain =>
    refine h.of_sublist ?_ rfl
    show (t.processed ++ t.received.toList ++ ([] ++ t.sent.toList)).Sublist t.line
    rw [List.nil_append, List.append_assoc]
    exact List.Sublist.refl _
  | activate | write | syncReferenceClock | setLeg | setPosition => exact h

theorem Ordered.after (h : t.Ordered) (ops : List (Operation α)) : (t.after ops).Ordered := by
  induction ops generalizing t with
  | nil => exact h
  | cons op ops ih => exact ih (h.next op)

/-- The frames that were processed are different frames, all of which were sent. -/
theorem Ordered.once (h : t.Ordered) :
    t.processed.Pairwise (· < ·) ∧ (∀ k ∈ t.processed, 0 < k ∧ k ≤ t.sends) ∧
      t.processed.length ≤ t.sends := by
  have hline : t.processed.Sublist t.line := List.sublist_append_left _ _
  have hrising := h.rising.sublist hline
  have hsent : ∀ k ∈ t.processed, 0 < k ∧ k ≤ t.sends := fun k hk => h.sent k (hline.subset hk)
  refine ⟨hrising, hsent, ?_⟩
  have hnodup : t.processed.Nodup := hrising.imp Nat.ne_of_lt
  have hsubset : t.processed.toFinset ⊆ Finset.Icc 1 t.sends := by
    intro k hk
    exact Finset.mem_Icc.mpr (hsent k (List.mem_toFinset.mp hk))
  calc t.processed.length = t.processed.toFinset.card := (List.toFinset_card_of_nodup hnodup).symm
    _ ≤ (Finset.Icc 1 t.sends).card := Finset.card_le_card hsubset
    _ = t.sends := Nat.card_Icc 1 t.sends

/-- A master that counts as many frames as there are, and knows which of them wait. -/
structure Tracked (t : Transit) (m : SimMaster α) : Prop where
  sends : m.rig.numSends = t.sends
  sent : m.sent = t.sent.isSome
  received : m.received = t.received.isSome
  counted : m.numFrames = min t.processed.length Word.max32

end Transit

/-! ## Operations -/

variable {n : Nat} {m : SimMaster α} {t : Transit}

theorem Placed.send_eq (h : m.Placed n) :
    ∃ d, m.domain = some d ∧ d.length = n ∧
      m.send = { m with inFlight := d, sent := true, rig.numSends := m.rig.numSends + 1 } := by
  obtain ⟨d, hd, hdomain⟩ := h.domain
  refine ⟨d, hd, hdomain, ?_⟩
  unfold SimMaster.send
  rw [if_pos h.active]
  simp only [hd, if_pos (hdomain.trans h.copy.symm)]

theorem Placed.send (h : m.Placed n) : m.send.Placed n ∧ m.domain = some m.send.inFlight := by
  obtain ⟨d, hd, hdomain, hsend⟩ := h.send_eq
  rw [hsend]
  exact ⟨⟨h.unbroken, h.active, ⟨d, hd, hdomain⟩, hdomain, h.slaves⟩, hd⟩

theorem Placed.count (h : m.Placed n) : m.count.Placed n :=
  ⟨h.unbroken, h.active, h.domain, h.copy, h.slaves⟩

variable [Scalar α] [Transmit α]

theorem processDomain_of_received (h : m.received = true) :
    m.processDomain = if m.count.linkState = .op then m.count.exchange else m.count :=
  if_pos h

theorem processDomain_of_not_received (h : m.received = false) : m.processDomain = m :=
  if_neg (Bool.eq_false_iff.mp h)

/-- A frame that was received is exchanged while the slaves are operational. -/
theorem Placed.processDomain (h : m.Placed n) :
    m.processDomain.Placed n ∧ m.processDomain.inFlight = m.inFlight ∧
      (m.received = true → m.processDomain.linkState = .op →
        Served m.inFlight m m.processDomain) ∧
      (¬ (m.received = true ∧ m.processDomain.linkState = .op) →
        m.processDomain.slaves = m.slaves) := by
  cases hreceived : m.received with
  | false =>
    rw [processDomain_of_not_received hreceived]
    exact ⟨h, rfl, Bool.noConfusion, fun _ => rfl⟩
  | true =>
    rw [processDomain_of_received hreceived]
    by_cases hop : m.count.linkState = .op
    · obtain ⟨hplaced, hexchanged, -, -, -, -, hcopy⟩ := h.count.exchange
      rw [if_pos hop, linkState_exchange]
      exact ⟨hplaced, hcopy,
        fun _ _ => ⟨hexchanged.commands, hexchanged.rig, hexchanged.slaves⟩,
        fun hnot => absurd ⟨rfl, hop⟩ hnot⟩
    · rw [if_neg hop]
      exact ⟨h.count, rfl, fun _ hup => absurd hup hop, fun _ => rfl⟩

theorem Placed.perform (h : m.Placed n) {op : Operation α} (hop : op.Cycles n) :
    (m.perform op).Placed n := by
  cases op with
  | activate => exact hop.elim
  | write bytes =>
    obtain ⟨d, hd, -⟩ := h.domain
    refine ⟨h.unbroken, h.active, ⟨bytes, ?_, hop⟩, h.copy, h.slaves⟩
    show m.domain.map _ = _
    rw [hd]
    rfl
  | send => exact h.send.1
  | processDomain => exact h.processDomain.1
  | receive | syncReferenceClock | setLeg | setPosition =>
    exact ⟨h.unbroken, h.active, h.domain, h.copy, h.slaves⟩

namespace Transit.Tracked

omit [Scalar α] [Transmit α] in
/-- The frame that waits to be processed is counted. -/
theorem count (ht : t.Tracked m) (hreceived : m.received = true) :
    m.count.numFrames = min (t.processed ++ t.received.toList).length Word.max32 := by
  obtain ⟨k, hk⟩ := Option.isSome_iff_exists.mp (ht.received.symm.trans hreceived)
  show min (m.numFrames + 1) Word.max32 = _
  rw [ht.counted, hk, List.length_append]
  show _ = min (t.processed.length + 1) Word.max32
  omega

theorem processDomain (ht : t.Tracked m) (h : m.Placed n) :
    (t.next (.processDomain : Operation α)).Tracked m.processDomain := by
  cases hreceived : m.received with
  | false =>
    rw [processDomain_of_not_received hreceived]
    have hnone : t.received.isSome = false := ht.received.symm.trans hreceived
    have hnothing : t.received = .none :=
      Option.isNone_iff_eq_none.mp (Option.isSome_eq_false_iff.mp hnone)
    refine ⟨ht.sends, ht.sent, hreceived, ?_⟩
    show m.numFrames = min (t.processed ++ t.received.toList).length Word.max32
    rw [hnothing, Option.toList_none, List.append_nil]
    exact ht.counted
  | true =>
    rw [processDomain_of_received hreceived]
    split
    · obtain ⟨-, -, hsent, hempty, hframes, hsends, -⟩ := h.count.exchange
      exact ⟨hsends.trans ht.sends, hsent.trans ht.sent, hempty,
        hframes.trans (ht.count hreceived)⟩
    · exact ⟨ht.sends, ht.sent, rfl, ht.count hreceived⟩

theorem perform (ht : t.Tracked m) (h : m.Placed n) {op : Operation α} (hop : op.Cycles n) :
    (t.next op).Tracked (m.perform op) := by
  cases op with
  | activate => exact hop.elim
  | send =>
    obtain ⟨d, -, -, hsend⟩ := h.send_eq
    show Tracked _ m.send
    rw [hsend]
    exact ⟨congrArg (· + 1) ht.sends, rfl, ht.received, ht.counted⟩
  | receive => exact ⟨ht.sends, rfl, ht.sent, ht.counted⟩
  | processDomain => exact ht.processDomain h
  | write | syncReferenceClock | setLeg | setPosition =>
    exact ⟨ht.sends, ht.sent, ht.received, ht.counted⟩

end Transit.Tracked

/-! ## Runs -/

variable {ops ops' : List (Operation α)}

theorem run_append (m : SimMaster α) (ops ops' : List (Operation α)) :
    m.run (ops ++ ops') = (m.run ops).run ops' :=
  List.foldl_append

theorem Placed.run (h : m.Placed n) (hops : ∀ op ∈ ops, op.Cycles n) : (m.run ops).Placed n := by
  induction ops generalizing m with
  | nil => exact h
  | cons op ops ih =>
    obtain ⟨hop, hops⟩ := List.forall_mem_cons.mp hops
    exact ih (h.perform hop) hops

theorem Transit.Tracked.run (ht : t.Tracked m) (h : m.Placed n)
    (hops : ∀ op ∈ ops, op.Cycles n) : (t.after ops).Tracked (m.run ops) := by
  induction ops generalizing m t with
  | nil => exact ht
  | cons op ops ih =>
    obtain ⟨hop, hops⟩ := List.forall_mem_cons.mp hops
    exact ih (ht.perform h hop) (h.perform hop) hops

variable {calls : List Preparation}

end BoomWalker.SimMaster
