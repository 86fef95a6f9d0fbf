/-
Attempts to receive that fail.

Main statement: a cycle in which receiving breaks off before a packet leaves the latch as it is. So
the operator is lost once more cycles than are tolerated have brought no packet and no failure either,
with any number of failing cycles between them, while failing cycles alone never lose an operator who
was present (`not_lost_by_silence`).
-/
import BoomWalker.Proofs.Operator.Reception

namespace BoomWalker.OperatorLatch

variable {ι : Type} {read : String → Option (OperatorPacket ι)}

/-- Receiving breaks off before a packet. -/
def BreaksOff (read : String → Option (OperatorPacket ι)) (rs : List Receipt) : Prop :=
  packets read rs = [] ∧ failure? rs ≠ none

theorem BreaksOff.update {rs : List Receipt} (h : BreaksOff read rs) (l : OperatorLatch ι) :
    (l.update read rs).1 = l := by
  obtain ⟨hquiet, hfailure⟩ := h
  obtain ⟨reason, hreason⟩ := Option.ne_none_iff_exists'.mp hfailure
  rw [update_eq, hquiet, hreason]
  rfl

/-- Failing cycles change nothing, however many there are. -/
theorem after_breaksOff (l : OperatorLatch ι) {failing : List (List Receipt)}
    (h : ∀ rs ∈ failing, BreaksOff read rs) : l.after read failing = l := by
  induction failing using List.reverseRecOn with
  | nil => rfl
  | append_singleton failing rs ih =>
    rw [after_concat, ih fun rs' hrs' => h rs' (List.mem_append_left _ hrs'),
      (h rs List.mem_concat_self).update]

theorem after_append (l : OperatorLatch ι) (cycles more : List (List Receipt)) :
    l.after read (cycles ++ more) = (l.after read cycles).after read more := by
  unfold after
  rw [List.foldl_append]

/-- Whatever the attempts of each cycle give: the operator is lost before the first packet and after
more cycles without a packet than are tolerated, of which those with a failure do not count. A cycle
answers with its failure, and failing cycles keep the operator from being lost. -/
theorem after_lost_iff (read : String → Option (OperatorPacket ι)) (timeout : Nat)
    (htimeout : timeout < maxSilent) (cycles : List (List Receipt)) :
    let l := (new timeout).after read cycles
    (l.lost = true ↔
      cycles.flatMap (packets read) = [] ∨
        ∃ earlier recent, cycles = earlier ++ recent ∧ (∀ rs ∈ recent, packets read rs = []) ∧
          timeout < recent.countP fun rs => (failure? rs).isNone) ∧
      (l.enabled = true ↔
        l.lost = false ∧
          ∃ p, (cycles.flatMap (packets read)).getLast? = some p ∧ p.enabled = true) ∧
      (∀ rs, (l.update read rs).2 = failure? rs) ∧
      ∀ failing : List (List Receipt), (∀ rs ∈ failing, BreaksOff read rs) →
        (new timeout).after read (cycles ++ failing) = l := by
  intro l
  have heard : Heard read timeout cycles l := heard_after cycles
  refine ⟨?_, ?_, fun rs => ?_, fun failing hfailing => ?_⟩
  · rw [heard.lost_iff htimeout, lt_silence_iff]
  · rw [enabled_iff, heard.packet]
  · rw [update_eq]
  · rw [after_append, after_breaksOff l hfailing]

/-- A packet by which the operator starts the gait. -/
def startPacket : Receipt := .text "\x7b\"enabled\":true,\"params\":\x7b\x7d\x7d"

/-- One silent cycle is tolerated. After the packet three cycles fail, and the operator is neither
lost nor stopped. -/
theorem constForce_after_failures :
    let read := GaitName.constForce.packet?
    let failing := List.replicate 3 [Receipt.failed "interrupted"]
    let l := (new 1).after read ([[startPacket]] ++ failing)
    1 < maxSilent ∧ (∀ rs ∈ failing, BreaksOff read rs) ∧ l.lost = false ∧ l.enabled = true := by
  intro read failing l
  have htimeout : 1 < maxSilent := by
    unfold maxSilent Word.max64
    omega
  have hfailing : ∀ rs ∈ failing, BreaksOff read rs := by
    intro rs hrs
    rw [List.eq_of_mem_replicate hrs]
    exact ⟨rfl, Option.some_ne_none _⟩
  obtain ⟨-, -, -, hkept⟩ := after_lost_iff read 1 htimeout [[startPacket]]
  have hl : l = (new 1).after read [[startPacket]] := hkept failing hfailing
  rw [hl]
  exact ⟨htimeout, hfailing, rfl, rfl⟩

/-- More cycles in a row without a packet than are tolerated do not always lose the operator. -/
theorem not_lost_by_silence :
    ¬ ∀ (timeout : Nat) (earlier recent : List (List Receipt)), timeout < maxSilent →
        timeout < recent.length →
        (∀ rs ∈ recent, packets GaitName.constForce.packet? rs = []) →
        let l := (new timeout).after GaitName.constForce.packet? (earlier ++ recent)
        l.lost = true ∧ l.enabled = false := by
  intro hlost
  have htimeout : 1 < maxSilent := by
    unfold maxSilent Word.max64
    omega
  let failing := List.replicate 2 [Receipt.failed "interrupted"]
  have hquiet : ∀ rs ∈ failing, packets GaitName.constForce.packet? rs = [] := by
    intro rs hrs
    rw [List.eq_of_mem_replicate hrs]
    rfl
  obtain ⟨hgone, -⟩ := hlost 1 [[startPacket]] failing htimeout (Nat.lt_succ_self 1) hquiet
  cases hgone

end BoomWalker.OperatorLatch
