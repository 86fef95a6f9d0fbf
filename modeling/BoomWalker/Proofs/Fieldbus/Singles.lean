/-
Widening and narrowing of the words on the wire.

Every word of 32 bits that does not stand for the undefined value is the narrowing of its widening,
so what travelled once travels on unchanged. A positive finite word is the number `m · 2 ^ q` with
at most 24 digits; its widening has the same value with 53 digits, and narrowing takes exactly the
digits off that widening has put on.
-/
import BoomWalker.Fieldbus.Single
import BoomWalker.Proofs.Scalar.Bits

namespace BoomWalker

namespace Decimal

theorem log2_mul_two_pow {n : Nat} (hn : n ≠ 0) (k : Nat) :
    (n * 2 ^ k).log2 = n.log2 + k := by
  induction k with
  | zero => rw [Nat.pow_zero, Nat.mul_one, Nat.add_zero]
  | succ k ih =>
    have hpos : n * 2 ^ k ≠ 0 := Nat.mul_ne_zero hn (Nat.two_pow_pos k).ne'
    rw [Nat.pow_succ', Nat.mul_left_comm, Nat.log2_two_mul hpos, ih, Nat.add_assoc]

/-- Nothing is rounded where the division leaves nothing. -/
theorem roundDiv_mul_self (n : Nat) {d : Nat} (hd : 0 < d) : roundDiv (n * d) d .toEven = n := by
  have hnone : compare (2 * 0) d = .lt := Nat.compare_eq_lt.mpr (by omega)
  unfold roundDiv
  simp only [Nat.mul_div_cancel n hd, Nat.mul_mod_left, hnone]

/-- The number of a word whose exponent is not left empty. -/
theorem Binary.ofBits_of_normal {b : UInt64} (h : Binary64.exponent b ≠ 0) :
    (Binary.ofBits b).m = 2 ^ 52 + Binary64.fraction b ∧
      (Binary.ofBits b).q = Binary64.exponent b - 1075 := by
  unfold Binary.ofBits
  simp only [Binary64.toNat_exponentField, Binary64.toNat_fractionField, Nat.pow_eq]
  rw [if_neg h]
  exact ⟨rfl, rfl⟩

/-- The number of a word whose exponent is left empty. -/
theorem Binary.ofBits_of_subnormal {b : UInt64} (h : Binary64.exponent b = 0) :
    Binary.ofBits b = ⟨Binary64.fraction b, -1074, false⟩ := by
  unfold Binary.ofBits
  simp only [Binary64.toNat_exponentField, Binary64.toNat_fractionField]
  rw [if_pos h]

end Decimal

namespace Single

open Decimal (roundDiv)

/-! ## The parts of a word -/

/-- The sign bit of a word. -/
def sign (w : UInt32) : Nat := w.toNat / 2 ^ 31

/-- The exponent field of a word. -/
def exponent (w : UInt32) : Nat := w.toNat / 2 ^ 23 % 2 ^ 8

/-- The fraction field of a word. -/
def fraction (w : UInt32) : Nat := w.toNat % 2 ^ 23

/-- Does the word stand for the undefined value? -/
def Undefined (w : UInt32) : Prop := exponent w = 0xFF ∧ fraction w ≠ 0

instance instDecidableUndefined (w : UInt32) : Decidable (Undefined w) :=
  inferInstanceAs (Decidable (_ ∧ _))

theorem infinity_eq : infinity = 0xFF * 2 ^ 23 := rfl

theorem toNat_eq_parts (w : UInt32) :
    w.toNat = sign w * 2 ^ 31 + exponent w * 2 ^ 23 + fraction w := by
  unfold sign exponent fraction
  omega

theorem sign_le (w : UInt32) : sign w ≤ 1 := by
  have hlt := w.toNat_lt
  unfold sign
  omega

theorem exponent_lt (w : UInt32) : exponent w < 2 ^ 8 := Nat.mod_lt _ (by decide)

theorem fraction_lt (w : UInt32) : fraction w < 2 ^ 23 := Nat.mod_lt _ (by decide)

theorem shiftRight_eq_zero_iff (w : UInt32) : w >>> 31 = 0 ↔ sign w = 0 := by
  rw [← UInt32.toNat_inj, UInt32.toNat_shiftRight]
  show w.toNat >>> 31 = 0 ↔ _
  rw [Nat.shiftRight_eq_div_pow]
  rfl

theorem toNat_exponentField (w : UInt32) : ((w >>> 23) &&& 0xFF).toNat = exponent w := by
  rw [UInt32.toNat_and, UInt32.toNat_shiftRight]
  show w.toNat >>> 23 &&& 2 ^ 8 - 1 = _
  rw [Nat.and_two_pow_sub_one_eq_mod, Nat.shiftRight_eq_div_pow]
  rfl

theorem toNat_fractionField (w : UInt32) : (w &&& 0x7FFFFF).toNat = fraction w := by
  rw [UInt32.toNat_and]
  show w.toNat &&& 2 ^ 23 - 1 = _
  rw [Nat.and_two_pow_sub_one_eq_mod]
  rfl

/-! ## Widening -/

/-- The bits of the widened magnitude with a given exponent and fraction field. -/
def widened (e f : Nat) : Nat :=
  if e = 0xFF then if f = 0 then 0x7FF * Nat.pow 2 52 else 0x7FF8 * Nat.pow 2 48
  else if e = 0 then if f = 0 then 0 else widen f (-149)
  else widen (Nat.pow 2 23 + f) (e - 150)

/-- The bits of a widened word. -/
def wide (w : UInt32) : UInt64 :=
  UInt64.ofNat (sign w * 2 ^ 63 + widened (exponent w) (fraction w))

theorem toFloat_eq (w : UInt32) : toFloat w = Float.ofBits (wide w) := by
  have hsign : (if w >>> 31 = 0 then 0 else Nat.pow 2 63) = sign w * 2 ^ 63 := by
    have hle := sign_le w
    rw [if_congr (shiftRight_eq_zero_iff w) rfl rfl]
    split
    · omega
    · show 2 ^ 63 = _
      omega
  unfold toFloat wide widened
  simp only [hsign, toNat_exponentField, toNat_fractionField]

/-! ## Narrowing -/

/-- A number of at most 24 digits is narrowed without a loss, however many zeros follow it. -/
theorem magnitude_of_shifted {b : Decimal.Binary} {m k : Nat} {q : Int} (hlt : m < 2 ^ 24)
    (hq : -149 ≤ q) (hfull : 2 ^ 23 ≤ m ∨ q = -149) (hk : 0 < k) (hm : b.m = m * 2 ^ k)
    (hexp : b.q = q - k) :
    magnitude b = min (m + (q + 149).toNat * 2 ^ 23) infinity := by
  have hunit : max (b.m.log2 + b.q - 23) (-149) = q := by
    rw [hm, hexp]
    by_cases hzero : m = 0
    · rw [hzero, Nat.zero_mul, Nat.log2_zero]
      omega
    · have hatMost : m.log2 < 24 := (Nat.log2_lt hzero).mpr hlt
      rw [Decimal.log2_mul_two_pow hzero]
      -- With all 24 digits the leading one decides the unit, with fewer the unit is the smallest.
      obtain hfull | hfull := hfull
      · have hatLeast : 23 ≤ m.log2 := (Nat.le_log2 hzero).mpr hfull
        omega
      · omega
  have hshift : (q - b.q).toNat = k := by omega
  unfold magnitude
  simp only [hunit]
  rw [if_neg (by omega), hshift, hm]
  show min (roundDiv (m * 2 ^ k) (2 ^ k) .toEven + _) infinity = _
  rw [Decimal.roundDiv_mul_self m (Nat.two_pow_pos k)]
  rfl

theorem magnitude_of_zero {b : UInt64} (h : Binary64.exponent b = 0)
    (hzero : Binary64.fraction b = 0) : magnitude (Decimal.Binary.ofBits b) = 0 := by
  have hnumber := Decimal.Binary.ofBits_of_subnormal h
  rw [hzero] at hnumber
  -- Zero is no digits followed by any number of zeros.
  rw [magnitude_of_shifted (m := 0) (k := 925) (q := -149) (by decide) (by decide) (.inr rfl)
    (by decide) (by rw [hnumber, Nat.zero_mul]) (by rw [hnumber]; rfl)]
  rfl

/-- The sign goes in front of the bits of a magnitude. -/
theorem toNat_signed (x : Float) {n : Nat} (hn : n < 2 ^ 31) :
    ((if Decimal.isSigned x then 0x80000000 else 0) ||| UInt32.ofNat n).toNat =
      Binary64.sign x.toBits * 2 ^ 31 + n := by
  have hword : (UInt32.ofNat n).toNat = n :=
    UInt32.toNat_ofNat_of_lt (by show _ < 2 ^ 32; omega)
  have hle := Binary64.sign_le x.toBits
  have hsigned : Decimal.isSigned x = true ↔ Binary64.sign x.toBits = 1 := by
    unfold Decimal.isSigned
    rw [decide_eq_true_iff, Ne, Binary64.shiftRight_eq_zero_iff]
    omega
  rw [UInt32.toNat_or, hword, if_congr hsigned rfl rfl]
  -- The bit of the sign is above all others, so putting it in front adds it.
  split
  · next hone =>
    have hor := Nat.two_pow_add_eq_or_of_lt hn 1
    rw [hone]
    show 2 ^ 31 * 1 ||| n = _
    omega
  · next hzero =>
    have hnone : Binary64.sign x.toBits = 0 := by omega
    rw [hnone]
    show 0 ||| n = _
    rw [Nat.zero_or]
    omega

theorem toNat_ofFloat_of_finite {x : Float} (h : Binary64.exponent x.toBits ≠ 0x7FF) :
    (ofFloat x).toNat =
      Binary64.sign x.toBits * 2 ^ 31 + magnitude (Decimal.Binary.ofBits x.toBits) := by
  have hlt : magnitude (Decimal.Binary.ofBits x.toBits) < 2 ^ 31 :=
    Nat.lt_of_le_of_lt (Nat.min_le_right _ _) (by decide)
  unfold ofFloat
  simp only [if_neg (mt (Binary64.exponentField_eq_iff x.toBits).mp h)]
  exact toNat_signed x hlt

theorem toNat_ofFloat_of_infinite {x : Float} (h : Binary64.exponent x.toBits = 0x7FF)
    (hzero : Binary64.fraction x.toBits = 0) :
    (ofFloat x).toNat = Binary64.sign x.toBits * 2 ^ 31 + infinity := by
  unfold ofFloat
  simp only [if_pos ((Binary64.exponentField_eq_iff x.toBits).mpr h),
    if_pos ((Binary64.fractionField_eq_zero_iff x.toBits).mpr hzero)]
  exact toNat_signed x (by decide)

/-! ## The number that a word stands for -/

/-- The digits of a finite word. -/
def digits (w : UInt32) : Nat :=
  if exponent w = 0 then fraction w else 2 ^ 23 + fraction w

/-- The exponent of the last digit of a finite word. -/
def unit (w : UInt32) : Int := if exponent w = 0 then -149 else exponent w - 150

theorem digits_lt (w : UInt32) : digits w < 2 ^ 24 := by
  have hfraction := fraction_lt w
  unfold digits
  split <;> omega

theorem unit_ge (w : UInt32) : -149 ≤ unit w := by
  unfold unit
  split <;> omega

theorem unit_le (w : UInt32) : unit w ≤ 105 := by
  have hexponent := exponent_lt w
  unfold unit
  split <;> omega

/-- Either all digits are there, or the unit is the smallest. -/
theorem digits_ge_or (w : UInt32) : 2 ^ 23 ≤ digits w ∨ unit w = -149 := by
  unfold digits unit
  split <;> omega

/-- The fields of a word, told by its number. -/
theorem digits_add_unit (w : UInt32) :
    digits w + (unit w + 149).toNat * 2 ^ 23 = exponent w * 2 ^ 23 + fraction w := by
  unfold digits unit
  split
  · next hzero =>
    rw [hzero]
    exact Nat.add_comm (fraction w) 0
  · -- The leading digit carries into the exponent field.
    have hback : ((exponent w : Int) - 150 + 149).toNat = exponent w - 1 := by omega
    rw [hback]
    omega

/-- The bits of a finite magnitude are the widening of its number. -/
theorem widened_of_digits {w : UInt32} (hfinite : exponent w ≠ 0xFF)
    (hpos : 0 < digits w) :
    widened (exponent w) (fraction w) = widen (digits w) (unit w) := by
  unfold digits at hpos
  unfold widened digits unit
  rw [if_neg hfinite]
  split
  · next hzero =>
    -- Without a leading digit the fraction is not zero.
    rw [if_pos hzero] at hpos
    rw [if_neg (by omega)]
  · rfl

/-- The fields of the number `m · 2 ^ q` among 53 digits. -/
structure Fields (m : Nat) (q : Int) (e f : Nat) : Prop where
  exponent : (e : Int) = m.log2 + q + 1023
  fraction : 2 ^ 52 + f = m * 2 ^ (52 - m.log2)
  normal : 0 < e
  finite : e < 0x7FF
  fraction_lt : f < 2 ^ 52

theorem widen_eq (m : Nat) (q : Int) :
    widen m q =
      (m.log2 + q + 1023).toNat * 2 ^ 52 + (m * 2 ^ (52 - m.log2) - 2 ^ 52) := by
  unfold widen
  rw [Nat.pow_eq, Nat.pow_eq]

/-- Widening fills the digits up to 53. -/
theorem widen_fields {m : Nat} {q : Int} (hpos : 0 < m) (hlt : m < 2 ^ 24) (hq : -149 ≤ q)
    (hle : q ≤ 105) : ∃ e f : Nat, Fields m q e f ∧ widen m q = e * 2 ^ 52 + f := by
  have hlog : m.log2 < 24 := (Nat.log2_lt (by omega)).mpr hlt
  have hfull : (m * 2 ^ (52 - m.log2)).log2 = 52 := by
    rw [Decimal.log2_mul_two_pow (by omega)]
    omega
  have hne : m * 2 ^ (52 - m.log2) ≠ 0 := Nat.mul_ne_zero (by omega) (Nat.two_pow_pos _).ne'
  obtain ⟨hatLeast, hbelow⟩ := (Nat.log2_eq_iff hne).mp hfull
  exact ⟨(m.log2 + q + 1023).toNat, m * 2 ^ (52 - m.log2) - 2 ^ 52,
    ⟨by omega, by omega, by omega, by omega, by omega⟩, widen_eq m q⟩

/-- A word with the fields of a number holds the number. -/
theorem ofBits_of_fields {m : Nat} {q : Int} {b : UInt64}
    (h : Fields m q (Binary64.exponent b) (Binary64.fraction b)) :
    (Decimal.Binary.ofBits b).m = m * 2 ^ (52 - m.log2) ∧
      (Decimal.Binary.ofBits b).q = q - (52 - m.log2 : Int) := by
  obtain ⟨hm, hq⟩ := Decimal.Binary.ofBits_of_normal h.normal.ne'
  refine ⟨hm.trans h.fraction, hq.trans ?_⟩
  rw [h.exponent]
  omega

/-! ## The widened word -/

/-- The parts of a widened word, once the bits of its magnitude are known. -/
theorem wide_parts {w : UInt32} {e f : Nat} (he : e < 2 ^ 11) (hf : f < 2 ^ 52)
    (h : widened (exponent w) (fraction w) = e * 2 ^ 52 + f) :
    Binary64.sign (wide w) = sign w ∧ Binary64.exponent (wide w) = e ∧
      Binary64.fraction (wide w) = f := by
  obtain ⟨hsign, hexponent, hfraction⟩ :=
    Binary64.parts_ofNat (sign_le w) (show e * 2 ^ 52 + f < 2 ^ 63 by omega)
  unfold wide
  rw [h]
  exact ⟨hsign, by omega, by omega⟩

theorem wide_of_infinite {w : UInt32} (h : exponent w = 0xFF) (hzero : fraction w = 0) :
    Binary64.sign (wide w) = sign w ∧ Binary64.exponent (wide w) = 0x7FF ∧
      Binary64.fraction (wide w) = 0 := by
  refine wide_parts (by decide) (by decide) ?_
  rw [h, hzero]
  rfl

theorem wide_of_undefined {w : UInt32} (h : Undefined w) : Binary64.Undefined (wide w) := by
  have hwidened : widened (exponent w) (fraction w) = 0x7FF * 2 ^ 52 + 2 ^ 51 := by
    unfold widened
    rw [if_pos h.1, if_neg h.2]
    rfl
  obtain ⟨-, hexponent, hfraction⟩ := wide_parts (by decide) (by decide) hwidened
  exact ⟨hexponent, by rw [hfraction]; decide⟩

theorem wide_of_zero {w : UInt32} (hexponent : exponent w = 0) (hfraction : fraction w = 0) :
    Binary64.sign (wide w) = sign w ∧ Binary64.exponent (wide w) = 0 ∧
      Binary64.fraction (wide w) = 0 := by
  refine wide_parts (by decide) (by decide) ?_
  rw [hexponent, hfraction]
  rfl

/-- A word of a positive finite magnitude keeps its sign and its number. -/
theorem wide_of_digits {w : UInt32} (hfinite : exponent w ≠ 0xFF) (hpos : 0 < digits w) :
    Binary64.sign (wide w) = sign w ∧
      Fields (digits w) (unit w) (Binary64.exponent (wide w)) (Binary64.fraction (wide w)) := by
  obtain ⟨e, f, hfields, hwiden⟩ := widen_fields hpos (digits_lt w) (unit_ge w) (unit_le w)
  have he := Nat.lt_trans hfields.finite (show 0x7FF < 2 ^ 11 by decide)
  obtain ⟨hsign, hexponent, hfraction⟩ := wide_parts he hfields.fraction_lt
    ((widened_of_digits hfinite hpos).trans hwiden)
  rw [hexponent, hfraction]
  exact ⟨hsign, hfields⟩

theorem magnitude_of_fields {w : UInt32} (hfinite : exponent w ≠ 0xFF) (hpos : 0 < digits w)
    {b : UInt64}
    (h : Fields (digits w) (unit w) (Binary64.exponent b) (Binary64.fraction b)) :
    magnitude (Decimal.Binary.ofBits b) = exponent w * 2 ^ 23 + fraction w := by
  obtain ⟨hm, hq⟩ := ofBits_of_fields h
  have hlog : (digits w).log2 < 24 := (Nat.log2_lt (by omega)).mpr (digits_lt w)
  have hfraction := fraction_lt w
  have hexponent := exponent_lt w
  rw [magnitude_of_shifted (digits_lt w) (unit_ge w) (digits_ge_or w) (by omega) hm
    (by rw [hq]; omega), digits_add_unit, infinity_eq]
  omega

/-! ## There and back -/

/-- A word is undefined, infinite, zero, or has digits. -/
theorem undefined_or (w : UInt32) :
    Undefined w ∨ (exponent w = 0xFF ∧ fraction w = 0) ∨ (exponent w = 0 ∧ fraction w = 0) ∨
      (exponent w ≠ 0xFF ∧ 0 < digits w) := by
  unfold Undefined digits
  split <;> omega

theorem undefined_wide_iff (w : UInt32) : Binary64.Undefined (wide w) ↔ Undefined w := by
  refine ⟨fun ⟨hexponent, hfraction⟩ => ?_, wide_of_undefined⟩
  obtain h | ⟨hones, hnone⟩ | ⟨hempty, hnone⟩ | ⟨hfinite, hpos⟩ := undefined_or w
  · exact h
  · exact absurd (wide_of_infinite hones hnone).2.2 hfraction
  · exact absurd (wide_of_zero hempty hnone).2.2 hfraction
  · exact absurd hexponent (wide_of_digits hfinite hpos).2.finite.ne

/-- The undefined value is read from the words that stand for it. -/
theorem isNaN_toFloat (w : UInt32) : (toFloat w).isNaN = true ↔ Undefined w := by
  rw [toFloat_eq, Binary64.isNaN_ofBits, undefined_wide_iff]

theorem toBits_toFloat {w : UInt32} (h : ¬Undefined w) : (toFloat w).toBits = wide w := by
  rw [toFloat_eq, Binary64.toBits_ofBits (mt (undefined_wide_iff w).mp h)]

/-- Widening and narrowing gives back every word but those of the undefined value. -/
theorem ofFloat_toFloat {w : UInt32} (h : ¬Undefined w) : ofFloat (toFloat w) = w := by
  have hbits := toBits_toFloat h
  have hparts := toNat_eq_parts w
  apply UInt32.toNat_inj.mp
  obtain hundefined | ⟨hones, hnone⟩ | ⟨hempty, hnone⟩ | ⟨hfinite, hpos⟩ := undefined_or w
  · exact absurd hundefined h
  · -- Infinite.
    obtain ⟨hsign, hexponent, hfraction⟩ := wide_of_infinite hones hnone
    rw [← hbits] at hsign hexponent hfraction
    rw [toNat_ofFloat_of_infinite hexponent hfraction, hsign, hparts, hones, hnone, infinity_eq,
      Nat.add_zero]
  · -- Zero.
    obtain ⟨hsign, hexponent, hfraction⟩ := wide_of_zero hempty hnone
    rw [← hbits] at hsign hexponent hfraction
    rw [toNat_ofFloat_of_finite (by rw [hexponent]; decide), hsign,
      magnitude_of_zero hexponent hfraction, hparts, hempty, hnone, Nat.zero_mul, Nat.add_zero]
  · -- Digits: narrowing gives the number back, and the number tells the fields.
    obtain ⟨hsign, hfields⟩ := wide_of_digits hfinite hpos
    rw [← hbits] at hsign hfields
    rw [toNat_ofFloat_of_finite hfields.finite.ne, hsign, magnitude_of_fields hfinite hpos hfields,
      hparts, Nat.add_assoc]

/-- One word alone is written for the undefined value. -/
theorem ofFloat_of_undefined {x : Float} (h : Binary64.Undefined x.toBits) : ofFloat x = nan := by
  unfold ofFloat
  simp only [if_pos ((Binary64.exponentField_eq_iff x.toBits).mpr h.1),
    if_neg (mt (Binary64.fractionField_eq_zero_iff x.toBits).mp h.2)]

/-- The bits of a sign and of a magnitude that is at most infinite. -/
theorem parts_of_toNat_eq {w : UInt32} {s n : Nat} (hn : n ≤ infinity)
    (h : w.toNat = s * 2 ^ 31 + n) : sign w = s ∧ w.toNat % 2 ^ 31 = n ∧ ¬Undefined w := by
  have hparts := toNat_eq_parts w
  have hfraction := fraction_lt w
  rw [infinity_eq] at hn
  refine ⟨?_, by omega, fun ⟨hones, hne⟩ => ?_⟩
  · unfold sign
    omega
  · rw [hones] at hparts
    omega

theorem undefined_ofFloat_iff (x : Float) :
    Undefined (ofFloat x) ↔ Binary64.Undefined x.toBits := by
  refine ⟨fun h => ?_, fun h => ?_⟩
  · by_contra hdefined
    by_cases hones : Binary64.exponent x.toBits = 0x7FF
    · have hzero : Binary64.fraction x.toBits = 0 := by
        by_contra hne
        exact hdefined ⟨hones, hne⟩
      exact (parts_of_toNat_eq le_rfl (toNat_ofFloat_of_infinite hones hzero)).2.2 h
    · exact (parts_of_toNat_eq (Nat.min_le_right _ _) (toNat_ofFloat_of_finite hones)).2.2 h
  · rw [ofFloat_of_undefined h]
    decide

end Single

end BoomWalker
