/-
Receiving the operator's packets.

Main statement: whatever messages arrive, in whatever order, each cycle takes in all of them. The
packet that is held is the newest of all cycles, and the operator is lost exactly before the first
packet and after more cycles in a row without one than are tolerated. A message that is no packet
counts for nothing: it neither replaces the packet nor ends the silence.

`Heard` says what the latch knows of the cycles. It allows for attempts that fail: what comes after
the failure is not received in that cycle, and the silence is not counted.
-/
import BoomWalker.Gait.Catalogue
import BoomWalker.Operator.Client
import Mathlib.Data.List.DropRight

namespace BoomWalker

variable {ι : Type} {read : String → Option (OperatorPacket ι)} {timeout : Nat}

/-! ## What a cycle brings -/

namespace Receipt

/-- The packet that a receipt is, if it is one. -/
def packet? (read : String → Option (OperatorPacket ι)) : Receipt → Option (OperatorPacket ι)
  | text s => read s
  | notText => none
  | failed _ => none

/-- Why an attempt failed, if it did. -/
def failure? : Receipt → Option String
  | failed reason => some reason
  | _ => none

end Receipt

namespace OperatorLatch

/-- Why receiving broke off in a cycle, if it did. -/
def failure? (rs : List Receipt) : Option String := rs.findSome? Receipt.failure?

/-- The packets of a cycle: those that were received before an attempt failed. -/
def packets (read : String → Option (OperatorPacket ι)) (rs : List Receipt) :
    List (OperatorPacket ι) :=
  (rs.takeWhile fun r => r.failure?.isNone).filterMap (·.packet? read)

/-- What is not received in a cycle: all that waits behind an attempt that failed. -/
def unread (rs : List Receipt) : List Receipt := (rs.dropWhile fun r => r.failure?.isNone).tail

@[simp] theorem packets_nil : packets read [] = [] := rfl

@[simp] theorem packets_failed (reason : String) (rs : List Receipt) :
    packets read (.failed reason :: rs) = [] := rfl

@[simp] theorem packets_notText (rs : List Receipt) :
    packets read (.notText :: rs) = packets read rs := rfl

theorem packets_text (s : String) (rs : List Receipt) :
    packets read (.text s :: rs) = (read s).toList ++ packets read rs := by
  have htaken : packets read (.text s :: rs) = (Receipt.text s ::
      rs.takeWhile fun r => r.failure?.isNone).filterMap (·.packet? read) := rfl
  have hpacket : (Receipt.text s).packet? read = read s := rfl
  rw [htaken]
  cases hread : read s with
  | none => exact List.filterMap_cons_none (hpacket.trans hread)
  | some p => exact List.filterMap_cons_some (hpacket.trans hread)

theorem packets_of_messages {rs : List Receipt} (h : ∀ r ∈ rs, r.failure? = none) :
    packets read rs = rs.filterMap (·.packet? read) := by
  have hall : rs.takeWhile (fun r => r.failure?.isNone) = rs :=
    List.takeWhile_eq_self_iff.mpr fun r hr => Option.isNone_iff_eq_none.mpr (h r hr)
  unfold packets
  rw [hall]

theorem unread_of_messages {rs : List Receipt} (h : ∀ r ∈ rs, r.failure? = none) :
    unread rs = [] := by
  have hall : rs.dropWhile (fun r => r.failure?.isNone) = [] :=
    List.dropWhile_eq_nil_iff.mpr fun r hr => Option.isNone_iff_eq_none.mpr (h r hr)
  unfold unread
  rw [hall, List.tail_nil]

theorem failure?_of_messages {rs : List Receipt} (h : ∀ r ∈ rs, r.failure? = none) :
    failure? rs = none :=
  List.findSome?_eq_none_iff.mpr h

/-! ## One cycle -/

/-- Of several packets the last one is held. -/
theorem foldl_accept (l : OperatorLatch ι) (ps : List (OperatorPacket ι)) :
    ps.foldl accept l = ps.getLast?.elim l l.accept := by
  induction ps using List.reverseRecOn with
  | nil => rfl
  | append_singleton ps p ih =>
    rw [List.foldl_append, ih, List.getLast?_concat]
    cases ps.getLast? with
    | none => rfl
    | some q => rfl

/-- Receiving accepts the packets of the cycle in their order. -/
theorem drain_eq (l : OperatorLatch ι) (accepted : Bool) (rs : List Receipt) :
    l.drain read accepted rs =
      ⟨(packets read rs).foldl accept l, accepted || !(packets read rs).isEmpty, failure? rs,
        unread rs⟩ := by
  induction rs generalizing l accepted with
  | nil => rw [drain, packets_nil, List.isEmpty_nil, Bool.not_true, Bool.or_false]; rfl
  | cons r rs ih =>
    cases r with
    | failed reason =>
      rw [drain, packets_failed, List.isEmpty_nil, Bool.not_true, Bool.or_false]
      rfl
    | notText =>
      rw [drain, ih, packets_notText]
      rfl
    | text s =>
      rw [drain, packets_text]
      cases read s with
      | none => exact ih l accepted
      | some p =>
        refine (ih (l.accept p) true).trans ?_
        rw [Bool.true_or, Option.toList_some, List.singleton_append, List.isEmpty_cons,
          Bool.not_false, Bool.or_true]
        rfl

/-- A cycle holds its last packet. Without one it notes the silence, unless an attempt failed. -/
theorem update_eq (l : OperatorLatch ι) (rs : List Receipt) :
    l.update read rs =
      (match (packets read rs).getLast?, failure? rs with
        | some p, _ => l.accept p
        | none, some _ => l
        | none, none => l.tick, failure? rs) := by
  unfold update
  rw [drain_eq, foldl_accept, Bool.false_or]
  cases hlast : (packets read rs).getLast? with
  | none =>
    rw [List.getLast?_eq_none_iff.mp hlast]
    cases failure? rs with
    | none => rfl
    | some reason => rfl
  | some p =>
    have hsome : (packets read rs).isEmpty = false := by
      rw [List.isEmpty_eq_false_iff]
      intro hempty
      rw [hempty] at hlast
      cases hlast
    rw [hsome]
    cases failure? rs with
    | none => rfl
    | some reason => rfl

/-! ## Runs of cycles -/

/-- The latch after cycles of receiving. -/
def after (read : String → Option (OperatorPacket ι)) (l : OperatorLatch ι)
    (cycles : List (List Receipt)) : OperatorLatch ι :=
  cycles.foldl (fun l rs => (l.update read rs).1) l

theorem after_concat (l : OperatorLatch ι) (cycles : List (List Receipt)) (rs : List Receipt) :
    l.after read (cycles ++ [rs]) = ((l.after read cycles).update read rs).1 := by
  unfold after
  rw [List.foldl_append]
  rfl

/-- The cycles since the last packet in which no attempt failed. -/
def silence (read : String → Option (OperatorPacket ι)) (cycles : List (List Receipt)) : Nat :=
  (cycles.rtakeWhile fun rs => (packets read rs).isEmpty).countP fun rs => (failure? rs).isNone

theorem silence_concat_of_packet {rs : List Receipt} (h : packets read rs ≠ [])
    (cycles : List (List Receipt)) : silence read (cycles ++ [rs]) = 0 := by
  unfold silence
  rw [List.rtakeWhile_concat_neg _ _ _ (by rwa [List.isEmpty_iff])]
  rfl

theorem silence_concat {rs : List Receipt} (h : packets read rs = [])
    (cycles : List (List Receipt)) :
    silence read (cycles ++ [rs]) =
      silence read cycles + if (failure? rs).isNone then 1 else 0 := by
  unfold silence
  rw [List.rtakeWhile_concat_pos _ _ _ (by rwa [List.isEmpty_iff]), List.countP_append,
    List.countP_singleton]

/-- What the latch knows of the cycles since it was created. -/
structure Heard (read : String → Option (OperatorPacket ι)) (timeout : Nat)
    (cycles : List (List Receipt)) (l : OperatorLatch ι) : Prop where
  packet : l.packet = (cycles.flatMap (packets read)).getLast?
  /-- Before the first packet the silence does not matter. -/
  silent : l.silent = min (silence read cycles) maxSilent
  timeout : l.timeout = timeout

theorem Heard.update {cycles : List (List Receipt)} {l : OperatorLatch ι}
    (h : Heard read timeout cycles l) (rs : List Receipt) :
    Heard read timeout (cycles ++ [rs]) (l.update read rs).1 := by
  obtain ⟨hpacket, hsilent, htimeout⟩ := h
  have hpackets : (cycles ++ [rs]).flatMap (packets read) =
      cycles.flatMap (packets read) ++ packets read rs := by
    rw [List.flatMap_append, List.flatMap_singleton]
  rw [update_eq]
  cases hlast : (packets read rs).getLast? with
  | some p =>
    have hsome : packets read rs ≠ [] := by
      intro hempty
      rw [hempty] at hlast
      cases hlast
    refine ⟨?_, ?_, htimeout⟩
    · rw [hpackets, List.getLast?_append, hlast]
      rfl
    · rw [silence_concat_of_packet hsome]
      rfl
  | none =>
    have hnone := List.getLast?_eq_none_iff.mp hlast
    rw [hnone, List.append_nil] at hpackets
    cases hfailure : failure? rs with
    | some reason =>
      refine ⟨?_, ?_, htimeout⟩
      · rw [hpackets]
        exact hpacket
      · rw [silence_concat hnone, hfailure]
        exact hsilent
    | none =>
      refine ⟨?_, ?_, htimeout⟩
      · rw [hpackets]
        exact hpacket
      · rw [silence_concat hnone, hfailure]
        show min (l.silent + 1) maxSilent = min (silence read cycles + 1) maxSilent
        rw [hsilent]
        omega

theorem heard_after (cycles : List (List Receipt)) :
    Heard read timeout cycles ((new timeout).after read cycles) := by
  induction cycles using List.reverseRecOn with
  | nil => exact ⟨rfl, rfl, rfl⟩
  | append_singleton cycles rs ih =>
    rw [after_concat]
    exact ih.update rs

/-! ## Losing the operator -/

theorem lt_silence_iff (cycles : List (List Receipt)) :
    timeout < silence read cycles ↔
      ∃ earlier recent, cycles = earlier ++ recent ∧ (∀ rs ∈ recent, packets read rs = []) ∧
        timeout < recent.countP fun rs => (failure? rs).isNone := by
  constructor
  · intro h
    refine ⟨cycles.rdropWhile _, _, List.rdropWhile_append_rtakeWhile.symm, ?_, h⟩
    intro rs hrs
    have hquiet : (packets read rs).isEmpty = true :=
      List.mem_rtakeWhile_imp (p := fun rs => (packets read rs).isEmpty) hrs
    exact List.isEmpty_iff.mp hquiet
  · rintro ⟨earlier, recent, rfl, hquiet, hlong⟩
    -- All recent cycles are in the silence, which may have begun before them.
    have hrecent : silence read (earlier ++ recent) =
        silence read earlier + recent.countP fun rs => (failure? rs).isNone := by
      clear hlong
      induction recent using List.reverseRecOn with
      | nil => rw [List.append_nil]; rfl
      | append_singleton recent rs ih =>
        have hbefore := ih fun rs' hrs' => hquiet rs' (List.mem_append_left _ hrs')
        rw [← List.append_assoc, silence_concat (hquiet rs List.mem_concat_self), hbefore,
          List.countP_append, List.countP_singleton, Nat.add_assoc]
    omega

/-- The silence is counted further than any timeout that is allowed. -/
theorem Heard.lost_iff {cycles : List (List Receipt)} {l : OperatorLatch ι}
    (h : Heard read timeout cycles l) (htimeout : timeout < maxSilent) :
    l.lost = true ↔
      cycles.flatMap (packets read) = [] ∨ timeout < silence read cycles := by
  unfold lost
  rw [h.packet, h.silent, h.timeout, Bool.or_eq_true, decide_eq_true_eq,
    Option.isNone_iff_eq_none, List.getLast?_eq_none_iff]
  have hsaturated : timeout < min (silence read cycles) maxSilent ↔
      timeout < silence read cycles := by omega
  rw [hsaturated]

theorem enabled_iff (l : OperatorLatch ι) :
    l.enabled = true ↔ l.lost = false ∧ ∃ p, l.packet = some p ∧ p.enabled = true := by
  unfold enabled
  rw [Bool.and_eq_true, Bool.not_eq_true', Option.any_eq_true]

end OperatorLatch

/-! ## Messages alone -/

/-- A latch, and the messages that wait for it. -/
structure Inbox (ι : Type) where
  latch : OperatorLatch ι
  queue : List Receipt

namespace Inbox

/-- One cycle: messages arrive, and the latch receives from the queue. -/
def cycle (read : String → Option (OperatorPacket ι)) (b : Inbox ι) (arrived : List Receipt) :
    Inbox ι :=
  ⟨(b.latch.update read (b.queue ++ arrived)).1,
    (b.latch.drain read false (b.queue ++ arrived)).rest⟩

/-- Cycles from the first one on. -/
def run (read : String → Option (OperatorPacket ι)) (timeout : Nat)
    (cycles : List (List Receipt)) : Inbox ι :=
  cycles.foldl (cycle read) ⟨.new timeout, []⟩

/-- No message waits for a second cycle. -/
theorem run_eq {cycles : List (List Receipt)} (h : ∀ rs ∈ cycles, ∀ r ∈ rs, r.failure? = none) :
    run read timeout cycles = ⟨(OperatorLatch.new timeout).after read cycles, []⟩ := by
  induction cycles using List.reverseRecOn with
  | nil => rfl
  | append_singleton cycles rs ih =>
    have hbefore := ih fun rs' hrs' => h rs' (List.mem_append_left _ hrs')
    have hstep : run read timeout (cycles ++ [rs]) = (run read timeout cycles).cycle read rs := by
      unfold run
      rw [List.foldl_append]
      rfl
    rw [hstep, hbefore, OperatorLatch.after_concat]
    unfold cycle
    rw [List.nil_append, OperatorLatch.drain_eq,
      OperatorLatch.unread_of_messages (h rs List.mem_concat_self)]

/-- Every message is received in the cycle in which it arrives. The newest packet of all is held, and
the operator is lost before the first packet and after more cycles in a row without one than are
tolerated. -/
theorem run_messages (read : String → Option (OperatorPacket ι)) (timeout : Nat)
    (htimeout : timeout < OperatorLatch.maxSilent) (standard : ι) (cycles : List (List Receipt))
    (hmessages : ∀ rs ∈ cycles, ∀ r ∈ rs, r.failure? = none) :
    let b := run read timeout cycles
    let received := cycles.flatten.filterMap (·.packet? read)
    b.queue = [] ∧ b.latch.packet = received.getLast? ∧
      b.latch.params standard = (received.getLast?.map (·.params)).getD standard ∧
      (b.latch.lost = true ↔
        received = [] ∨ ∃ earlier recent, cycles = earlier ++ recent ∧ timeout < recent.length ∧
          ∀ rs ∈ recent, ∀ r ∈ rs, r.packet? read = none) ∧
      (b.latch.enabled = true ↔
        b.latch.lost = false ∧ ∃ p, received.getLast? = some p ∧ p.enabled = true) := by
  intro b received
  have hb : b = ⟨(OperatorLatch.new timeout).after read cycles, []⟩ := run_eq hmessages
  have heard : OperatorLatch.Heard read timeout cycles b.latch := by
    rw [hb]
    exact OperatorLatch.heard_after cycles
  have hreceived : cycles.flatMap (OperatorLatch.packets read) = received := by
    have heach : cycles.map (OperatorLatch.packets read) =
        cycles.map fun rs => rs.filterMap (·.packet? read) :=
      List.map_congr_left fun rs hrs => OperatorLatch.packets_of_messages (hmessages rs hrs)
    rw [List.flatMap_def, heach]
    exact (List.filterMap_flatten ..).symm
  have hpacket : b.latch.packet = received.getLast? := by
    rw [heard.packet, hreceived]
  refine ⟨by rw [hb], hpacket, ?_, ?_, ?_⟩
  · unfold OperatorLatch.params
    rw [hpacket]
  · rw [heard.lost_iff htimeout, hreceived, OperatorLatch.lt_silence_iff]
    refine or_congr_right (exists_congr fun earlier => exists_congr fun recent => ?_)
    refine and_congr_right fun hsplit => ?_
    have hrecent : ∀ rs ∈ recent, ∀ r ∈ rs, r.failure? = none := fun rs hrs =>
      hmessages rs (hsplit ▸ List.mem_append_right _ hrs)
    have hlength : recent.countP (fun rs => (OperatorLatch.failure? rs).isNone) = recent.length :=
      List.countP_eq_length.mpr fun rs hrs => by
        rw [OperatorLatch.failure?_of_messages (hrecent rs hrs)]
        rfl
    have hquiet : (∀ rs ∈ recent, OperatorLatch.packets read rs = []) ↔
        ∀ rs ∈ recent, ∀ r ∈ rs, r.packet? read = none := by
      refine forall₂_congr fun rs hrs => ?_
      rw [OperatorLatch.packets_of_messages (hrecent rs hrs), List.filterMap_eq_nil_iff]
    rw [hlength, hquiet, And.comm]
  · rw [OperatorLatch.enabled_iff, hpacket]

/-- A packet among messages that are none is held through two cycles that bring no packet, and the
operator is lost in the second one. -/
theorem constForce_run_messages :
    let read := GaitName.constForce.packet?
    let packet := Receipt.text "\x7b\"enabled\":true,\"params\":\x7b\x7d\x7d"
    let cycles := [[.text "bad", packet, .notText], [.text "\x7b\"enabled\":1\x7d"], []]
    let b := run read 1 cycles
    1 < OperatorLatch.maxSilent ∧ (∀ rs ∈ cycles, ∀ r ∈ rs, r.failure? = none) ∧
      b.queue = [] ∧ b.latch.packet = some ⟨true, GaitName.constForce.gait.defaultInput⟩ ∧
      b.latch.lost = true ∧ b.latch.enabled = false := by
  intro read packet cycles b
  have htimeout : 1 < OperatorLatch.maxSilent := by
    unfold OperatorLatch.maxSilent Word.max64
    omega
  have hmessages : ∀ rs ∈ cycles, ∀ r ∈ rs, r.failure? = none := by
    simp [cycles, packet, Receipt.failure?]
  have hreceived : cycles.flatten.filterMap (·.packet? read) =
      [⟨true, GaitName.constForce.gait.defaultInput⟩] := rfl
  have hsilent : ∀ rs ∈ cycles.drop 1, ∀ r ∈ rs, r.packet? read = none := by
    intro rs hrs r hr
    obtain rfl | hrs := List.mem_cons.mp hrs
    · rw [List.mem_singleton.mp hr]
      rfl
    · rw [List.mem_singleton.mp hrs] at hr
      cases hr
  obtain ⟨hqueue, hpacket, -, hlost, henabled⟩ := run_messages read 1 htimeout
    GaitName.constForce.gait.defaultInput cycles hmessages
  rw [hreceived] at hpacket
  have hgone : b.latch.lost = true :=
    hlost.mpr (Or.inr ⟨cycles.take 1, cycles.drop 1, rfl, Nat.lt_succ_self 1, hsilent⟩)
  refine ⟨htimeout, hmessages, hqueue, hpacket, hgone, Bool.eq_false_iff.mpr fun hruns => ?_⟩
  cases hgone.symm.trans (henabled.mp hruns).1

end Inbox

end BoomWalker
