/-
The bits of binary64: a value made from bits has these bits.

The undefined value is the exception. Many words stand for it, those with all ones in the exponent
and a fraction that is not zero, and a value keeps one of them only.

The parts of a word are read as numbers here, so that what is left to show of a conversion is
arithmetic.
-/
import Mathlib

namespace BoomWalker.Binary64

open Float.Model.UnpackedFloat

/-! ## The parts of a word -/

/-- The sign bit of a word. -/
def sign (b : UInt64) : Nat := b.toNat / 2 ^ 63

/-- The exponent field of a word. -/
def exponent (b : UInt64) : Nat := b.toNat / 2 ^ 52 % 2 ^ 11

/-- The fraction field of a word. -/
def fraction (b : UInt64) : Nat := b.toNat % 2 ^ 52

/-- Does the word stand for the undefined value? -/
def Undefined (b : UInt64) : Prop := exponent b = 0x7FF ∧ fraction b ≠ 0

theorem sign_le (b : UInt64) : sign b ≤ 1 := by
  have hlt := b.toNat_lt
  unfold sign
  omega

theorem shiftRight_eq_zero_iff (b : UInt64) : b >>> 63 = 0 ↔ sign b = 0 := by
  rw [← UInt64.toNat_inj, UInt64.toNat_shiftRight]
  show b.toNat >>> 63 = 0 ↔ _
  rw [Nat.shiftRight_eq_div_pow]
  rfl

theorem toNat_exponentField (b : UInt64) : ((b >>> 52) &&& 0x7FF).toNat = exponent b := by
  rw [UInt64.toNat_and, UInt64.toNat_shiftRight]
  show b.toNat >>> 52 &&& 2 ^ 11 - 1 = _
  rw [Nat.and_two_pow_sub_one_eq_mod, Nat.shiftRight_eq_div_pow]
  rfl

theorem toNat_fractionField (b : UInt64) : (b &&& 0xFFFFFFFFFFFFF).toNat = fraction b := by
  rw [UInt64.toNat_and]
  show b.toNat &&& 2 ^ 52 - 1 = _
  rw [Nat.and_two_pow_sub_one_eq_mod]
  rfl

theorem exponentField_eq_iff (b : UInt64) : (b >>> 52) &&& 0x7FF = 0x7FF ↔ exponent b = 0x7FF := by
  rw [← UInt64.toNat_inj, toNat_exponentField]
  rfl

theorem fractionField_eq_zero_iff (b : UInt64) : b &&& 0xFFFFFFFFFFFFF = 0 ↔ fraction b = 0 := by
  rw [← UInt64.toNat_inj, toNat_fractionField]
  rfl

/-- The parts of the word that a sign and the bits of a magnitude give. -/
theorem parts_ofNat {s n : Nat} (hs : s ≤ 1) (hn : n < 2 ^ 63) :
    sign (UInt64.ofNat (s * 2 ^ 63 + n)) = s ∧
      exponent (UInt64.ofNat (s * 2 ^ 63 + n)) = n / 2 ^ 52 ∧
      fraction (UInt64.ofNat (s * 2 ^ 63 + n)) = n % 2 ^ 52 := by
  have hword : (UInt64.ofNat (s * 2 ^ 63 + n)).toNat = s * 2 ^ 63 + n :=
    UInt64.toNat_ofNat_of_lt (by show _ < 2 ^ 64; omega)
  unfold sign exponent fraction
  rw [hword]
  omega

/-! ## Values made from bits -/

theorem toNat_unpackExponent (b : UInt64) :
    (@unpackExponent .binary64 b.toBitVec).toNat = exponent b := by
  show b.toNat >>> 52 % 2 ^ 11 = b.toNat / 2 ^ 52 % 2 ^ 11
  rw [Nat.shiftRight_eq_div_pow]

theorem toNat_unpackMantissa (b : UInt64) :
    (@unpackMantissa .binary64 b.toBitVec).toNat = fraction b := rfl

theorem isNaNBits_iff (b : UInt64) : @isNaNBits .binary64 b.toBitVec = true ↔ Undefined b := by
  have hexponent : @unpackExponent .binary64 b.toBitVec = -1#11 ↔ exponent b = 0x7FF := by
    rw [← BitVec.toNat_inj, toNat_unpackExponent]
    rfl
  have hfraction : @unpackMantissa .binary64 b.toBitVec = 0#52 ↔ fraction b = 0 := by
    rw [← BitVec.toNat_inj, toNat_unpackMantissa]
    rfl
  unfold isNaNBits Undefined
  rw [decide_eq_true_iff]
  exact and_congr hexponent (not_congr hfraction)

theorem toBits_ofBits {b : UInt64} (h : ¬Undefined b) : (Float.ofBits b).toBits = b := by
  show UInt64.ofBitVec (pack .binary64 (unpack .binary64 b.toBitVec)) = b
  rw [pack_unpack, if_neg (mt (isNaNBits_iff b).mp h)]

theorem isNaN_ofBits (b : UInt64) : (Float.ofBits b).isNaN = true ↔ Undefined b := by
  show (unpack .binary64 (pack .binary64 (unpack .binary64 b.toBitVec))).isNaN = true ↔ Undefined b
  rw [isNaN_unpack_iff_of_valid valid_pack, pack_unpack, ← isNaNBits_iff]
  split
  · next h => exact iff_of_true rfl h
  · next h =>
    -- The word that is kept for the undefined value is among those that stand for it.
    exact iff_of_false (fun heq => h (heq ▸ isNaNBits_packedNaN)) h

theorem isNaN_iff (x : Float) : x.isNaN = true ↔ Undefined x.toBits := by
  rw [← isNaN_ofBits, Float.ofBits_toBits]

end BoomWalker.Binary64
