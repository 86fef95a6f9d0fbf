/-
What travels in a frame: a command written into the process data is the command that is read from
it, with its currents rounded, and writing one window leaves the others alone.
-/
import BoomWalker.Fieldbus.Frame
import Mathlib.Data.Nat.Bitwise

namespace BoomWalker

namespace Bytes

/-! ## Words -/

/-- Putting a further digit on top of the low bits of a number. -/
theorem mod_or_shiftLeft (n : Nat) {k l m : Nat} (h : k + l ≤ m) :
    n % 2 ^ k ||| (n >>> k % 2 ^ l) <<< k % 2 ^ m = n % 2 ^ (k + l) := by
  apply Nat.eq_of_testBit_eq
  intro i
  simp only [Nat.testBit_lor, Nat.testBit_mod_two_pow, Nat.testBit_shiftLeft,
    Nat.testBit_shiftRight]
  by_cases hi : i < k
  · have hdigits : i < k + l := by omega
    simp only [hi, hdigits, Nat.not_le.mpr hi, decide_true, decide_false, Bool.true_and,
      Bool.false_and, Bool.and_false, Bool.or_false]
  · have hback : k + (i - k) = i := by omega
    have hlow : i - k < l ↔ i < k + l := by omega
    have hhigh : i < k + l → i < m := by omega
    simp only [hi, hback, hlow, Nat.not_lt.mp hi, decide_true, decide_false, Bool.true_and,
      Bool.false_and, Bool.false_or]
    by_cases hdigits : i < k + l
    · simp only [hdigits, hhigh hdigits, decide_true, Bool.true_and]
    · simp only [hdigits, decide_false, Bool.false_and, Bool.and_false]

theorem word16?_ofWord16 (w : UInt16) (rest : Bytes) :
    word16? (ofWord16 w ++ rest) = some (w, rest) := by
  have hword : w.toUInt8.toUInt16 ||| (w >>> 8).toUInt8.toUInt16 <<< 8 = w := by
    apply UInt16.toNat_inj.mp
    simp only [UInt16.toNat_or, UInt16.toNat_shiftLeft, UInt8.toNat_toUInt16,
      UInt16.toNat_toUInt8, UInt16.toNat_shiftRight]
    show w.toNat % 2 ^ 8 ||| (w.toNat >>> 8 % 2 ^ 8) <<< 8 % 2 ^ 16 = w.toNat
    rw [mod_or_shiftLeft w.toNat (by decide)]
    exact Nat.mod_eq_of_lt w.toNat_lt
  unfold ofWord16 word16?
  simp only [List.cons_append, List.nil_append]
  rw [hword]

theorem word32?_ofWord32 (w : UInt32) (rest : Bytes) :
    word32? (ofWord32 w ++ rest) = some (w, rest) := by
  have hword : w.toUInt8.toUInt32 ||| (w >>> 8).toUInt8.toUInt32 <<< 8 |||
      (w >>> 16).toUInt8.toUInt32 <<< 16 ||| (w >>> 24).toUInt8.toUInt32 <<< 24 = w := by
    apply UInt32.toNat_inj.mp
    simp only [UInt32.toNat_or, UInt32.toNat_shiftLeft, UInt8.toNat_toUInt32,
      UInt32.toNat_toUInt8, UInt32.toNat_shiftRight]
    show w.toNat % 2 ^ 8 ||| (w.toNat >>> 8 % 2 ^ 8) <<< 8 % 2 ^ 32 |||
      (w.toNat >>> 16 % 2 ^ 8) <<< 16 % 2 ^ 32 |||
      (w.toNat >>> 24 % 2 ^ 8) <<< 24 % 2 ^ 32 = w.toNat
    -- The bytes are put on top of each other, the lowest first.
    rw [mod_or_shiftLeft w.toNat (by decide), mod_or_shiftLeft w.toNat (by decide),
      mod_or_shiftLeft w.toNat (by decide)]
    exact Nat.mod_eq_of_lt w.toNat_lt
  unfold ofWord32 word32?
  simp only [List.cons_append, List.nil_append]
  rw [hword]

/-! ## Quantities -/

section Transmit

variable {α : Type} [Transmit α]

theorem ofScalars_cons (x : α) (xs : List α) :
    ofScalars (x :: xs) = ofWord32 (Transmit.toWord x) ++ ofScalars xs := rfl

theorem length_ofScalars (xs : List α) : (ofScalars xs).length = 4 * xs.length := by
  induction xs with
  | nil => rfl
  | cons x xs ih =>
    have hword : (ofWord32 (Transmit.toWord x)).length = 4 := rfl
    rw [ofScalars_cons, List.length_append, hword, ih, List.length_cons]
    omega

/-- Quantities come back rounded. -/
theorem scalars?_ofScalars (xs : List α) (rest : Bytes) :
    scalars? xs.length (ofScalars xs ++ rest) = some (xs.map Transmit.round, rest) := by
  induction xs with
  | nil => rfl
  | cons x xs ih =>
    rw [ofScalars_cons, List.append_assoc, List.length_cons, scalars?, word32?_ofWord32]
    simp only [Option.bind_eq_bind, Option.bind_some]
    rw [ih]
    rfl

end Transmit

/-! ## Windows -/

/-- Overwriting a window leaves the bytes outside it alone. -/
theorem getElem?_overwrite_of_outside {place i : Nat} {source bytes : Bytes}
    (hfits : place + source.length ≤ bytes.length)
    (hi : i < place ∨ place + source.length ≤ i) :
    (overwrite place source bytes)[i]? = bytes[i]? := by
  have hbefore : (bytes.take place).length = place := by
    rw [List.length_take]
    omega
  unfold overwrite
  obtain hi | hi := hi
  · rw [List.append_assoc, List.getElem?_append_left (by omega), List.getElem?_take_of_lt hi]
  · have hback : place + source.length + (i - (place + source.length)) = i := by omega
    rw [List.getElem?_append_right (by rw [List.length_append, hbefore]; exact hi),
      List.length_append, hbefore, List.getElem?_drop, hback]

/-- Overwriting a window leaves every window beside it alone. -/
theorem window?_overwrite_of_disjoint {start length place : Nat} {source bytes : Bytes}
    (hfits : place + source.length ≤ bytes.length)
    (hdisjoint : start + length ≤ place ∨ place + source.length ≤ start) :
    window? start length (overwrite place source bytes) = window? start length bytes := by
  have hsame : ((overwrite place source bytes).drop start).take length =
      (bytes.drop start).take length := by
    apply List.ext_getElem?
    intro i
    rw [List.getElem?_take, List.getElem?_take, List.getElem?_drop, List.getElem?_drop]
    split
    · exact getElem?_overwrite_of_outside hfits (by omega)
    · rfl
  unfold window?
  rw [length_overwrite hfits, hsame]

theorem window?_replicate {start length n : Nat} (b : UInt8) (h : start + length ≤ n) :
    window? start length (List.replicate n b) = some (List.replicate length b) := by
  unfold window?
  rw [List.length_replicate, if_pos h, List.drop_replicate, List.take_replicate,
    Nat.min_eq_left (by omega)]

end Bytes

/-! ## Command frames -/

namespace CommandFrame

variable {α : Type} [Transmit α]

theorem length_toBytes (f : CommandFrame α) : f.toBytes.length = length := by
  unfold toBytes
  rw [List.cons_append, List.length_cons, List.length_append, Bytes.length_ofScalars]
  rfl

/-- A command frame comes back with its currents rounded. -/
theorem ofBytes?_toBytes (f : CommandFrame α) :
    ofBytes? f.toBytes = some { f with currents := f.currents.map Transmit.round } := by
  obtain ⟨code, watchdog, currents⟩ := f
  -- Nothing follows the currents in a frame.
  have hcurrents := Bytes.scalars?_ofScalars currents.toList []
  rw [List.append_nil] at hcurrents
  unfold toBytes ofBytes?
  rw [List.cons_append]
  simp only [Bytes.word16?_ofWord16, Option.bind_eq_bind, Option.bind_some,
    CommandCode.ofByte_toByte]
  show Option.bind (Bytes.scalars? currents.toList.length _) _ = _
  rw [hcurrents]
  rfl

/-- The frame that is read before any was written. -/
theorem ofBytes?_zero :
    ofBytes? (List.replicate length 0) =
      some (⟨.idle, 0, ⟨Transmit.ofWord 0, Transmit.ofWord 0, Transmit.ofWord 0⟩⟩ :
        CommandFrame α) := by
  rfl

end CommandFrame

theorem StateFrame.length_toBytes {α : Type} [Transmit α] (f : StateFrame α) :
    f.toBytes.length = length := by
  unfold toBytes
  rw [List.length_append, Bytes.length_ofScalars, List.length_append]
  rfl

end BoomWalker
