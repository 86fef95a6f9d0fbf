/-
The signs of differences and products, in every arithmetic of the control law.

Rounding may lose the sign of a result, which is then zero, and a result may be undefined. What
rounding does not do is to turn a sign round. `SignLaws` says so, and it holds in binary64
(`instSignLawsFloat`) as it does over the real numbers.

In binary64 both parts come from the exact result, which is rounded with the sign that it has
(`signed_normalize`, `signed_roundWithAccuracy`). A difference also needs the order of the operands.
They are compared by exponent first, which is their order because only the numbers of the smallest
exponent may have a short mantissa (`compare_of_lt`).
-/
import BoomWalker.Proofs.Scalar.Real
import Mathlib

namespace BoomWalker

/-- Values are not each below the other. A difference that has a sign tells the order of its
operands, and a product by a positive factor that has a sign tells that of the other factor. -/
class SignLaws (α : Type) [Scalar α] : Prop where
  lt_asymm {x y : α} : x < y → ¬ y < x
  lt_of_sub_neg {x y : α} : x - y < 0 → x < y
  lt_of_sub_pos {x y : α} : 0 < x - y → y < x
  neg_of_mul_neg {k x : α} : 0 < k → k * x < 0 → x < 0
  pos_of_mul_pos {k x : α} : 0 < k → 0 < k * x → 0 < x

namespace Binary64

open Float.Model Float.Model.UnpackedFloat

/-! ## Values that have a sign -/

/-- Is the value neither zero nor undefined, and of this sign? -/
def Signed (s : Sign) : UnpackedFloat → Prop
  | .infinity t => t = s
  | .finite t _ _ _ => t = s
  | _ => False

theorem lt_iff (x y : Float) :
    x < y ↔ x.toModel.unpack.compare y.toModel.unpack = some .lt := by
  show decide (Float.Model.lt x.toModel y.toModel = true) = true ↔ _
  rw [decide_eq_true_iff]
  exact beq_iff_eq

theorem lt_zero_iff (x : Float) : x < 0 ↔ Signed .negative x.toModel.unpack := by
  rw [lt_iff]
  show UnpackedFloat.compare _ (.zero .positive) = _ ↔ _
  cases x.toModel.unpack with
  | notANumber => simp [UnpackedFloat.compare, Signed]
  | infinity s => cases s <;> simp [UnpackedFloat.compare, Signed]
  | zero s => simp [UnpackedFloat.compare, Signed]
  | finite s m e hm => cases s <;> simp [UnpackedFloat.compare, Signed]

theorem zero_lt_iff (x : Float) : 0 < x ↔ Signed .positive x.toModel.unpack := by
  rw [lt_iff]
  show UnpackedFloat.compare (.zero .positive) _ = _ ↔ _
  cases x.toModel.unpack with
  | notANumber => simp [UnpackedFloat.compare, Signed]
  | infinity s => cases s <;> simp [UnpackedFloat.compare, Signed]
  | zero s => simp [UnpackedFloat.compare, Signed]
  | finite s m e hm => cases s <;> simp [UnpackedFloat.compare, Signed]

/-- The sign of what a word stands for is its first bit. -/
theorem sign_of_unpack {f : Format} {s : Sign} {b : BitVec f.numBits}
    (h : Signed s (unpack f b)) : Sign.ofBitVec (unpackSign b) = s := by
  dsimp only [UnpackedFloat.unpack] at h
  split_ifs at h
  · exact h
  · exact h.elim
  · exact h.elim
  · exact h
  · exact h

/-- A value that is put in a word and read back keeps its sign, if it has one after that. -/
theorem signed_of_pack {f : Format} {s : Sign} {u : UnpackedFloat}
    (h : Signed s (unpack f (pack f u))) : Signed s u := by
  have hsign := sign_of_unpack h
  cases u with
  | notANumber =>
    rw [UnpackedFloat.pack, unpack_packedNaN] at h
    exact h.elim
  | zero t =>
    rw [UnpackedFloat.pack, unpack_packedZero] at h
    exact h.elim
  | infinity t =>
    rw [UnpackedFloat.pack, packedInfinity, unpackSign_packComponents,
      Sign.ofBitVec_toBitVec] at hsign
    exact hsign
  | finite t m e hm =>
    have hpacked : unpackSign (pack f (.finite t m e hm)) = t.toBitVec := by
      dsimp only [UnpackedFloat.pack]
      split_ifs
      · exact unpackSign_packComponents _ _ _
      · exact unpackSign_packComponents _ _ _
      · exact unpackSign_packComponents _ _ _
    rw [hpacked, Sign.ofBitVec_toBitVec] at hsign
    exact hsign

/-! ## The order of values -/

/-- Numbers are compared by exponent, and then by mantissa. -/
theorem swap_compare (m m' : ℕ) (e e' : ℤ) :
    ((compare e e').then (compare m m')).swap = (compare e' e).then (compare m' m) := by
  rw [Ordering.swap_then, Int.compare_swap, Nat.compare_swap]

/-- Values are not each below the other. -/
theorem compare_asymm {u v : UnpackedFloat} (h : u.compare v = some .lt) :
    v.compare u = some .gt := by
  cases u with
  | notANumber => cases h
  | infinity s =>
    cases v with
    | notANumber => cases s <;> cases h
    | infinity t => cases s <;> cases t <;> first | rfl | cases h
    | zero t => cases s <;> first | rfl | cases h
    | finite t m e hm => cases s <;> first | rfl | cases h
  | zero s =>
    cases v with
    | notANumber => cases h
    | infinity t => cases t <;> first | rfl | cases h
    | zero t => cases h
    | finite t m e hm => cases t <;> first | rfl | cases h
  | finite s m e hm =>
    cases v with
    | notANumber => cases s <;> cases h
    | infinity t => cases t <;> first | rfl | cases h
    | zero t => cases s <;> first | rfl | cases h
    | finite t m' e' hm' =>
      cases s with
      | negative =>
        cases t with
        | positive => rfl
        | negative =>
          have hlt : ((compare e e').then (compare m m')).swap = .lt := Option.some.inj h
          show some ((compare e' e).then (compare m' m)).swap = some .gt
          rw [← swap_compare, hlt]
          rfl
      | positive =>
        cases t with
        | negative => cases h
        | positive =>
          have hlt : (compare e e').then (compare m m') = .lt := Option.some.inj h
          show some ((compare e' e).then (compare m' m)) = some .gt
          rw [← swap_compare, hlt]
          rfl

/-! ## Rounding -/

theorem signed_roundWithAccuracy {f : Format} {s t : Sign} {m : ℕ} {e : ℤ} {a : Accuracy}
    (h : Signed s (roundWithAccuracy f t m e a)) : t = s := by
  dsimp only [roundWithAccuracy] at h
  split_ifs at h
  · exact h.elim
  · exact h

/-- A number that is rounded has its own sign or none. -/
theorem signed_normalize {f : Format} {s t : Sign} {m e : ℤ}
    (h : Signed s (UnpackedFloat.normalize f m e t)) : 0 < s.apply m := by
  dsimp only [UnpackedFloat.normalize] at h
  cases hcompare : compare m 0 with
  | lt =>
    rw [hcompare] at h
    obtain rfl : .negative = s := signed_roundWithAccuracy h
    exact neg_pos.mpr (compare_lt_iff_lt.mp hcompare)
  | eq =>
    rw [hcompare] at h
    exact h.elim
  | gt =>
    rw [hcompare] at h
    obtain rfl : .positive = s := signed_roundWithAccuracy h
    exact compare_gt_iff_gt.mp hcompare

/-! ## Products -/

theorem signed_mul {f : Format} {s : Sign} {u v : UnpackedFloat} (hu : Signed .positive u)
    (h : Signed s (UnpackedFloat.mul f u v)) : Signed s v := by
  have hone (t : Sign) : Sign.positive * t = t := by cases t <;> rfl
  cases u with
  | notANumber => exact hu.elim
  | zero t => exact hu.elim
  | infinity t =>
    cases hu
    cases v with
    | notANumber => exact h.elim
    | zero t => exact h.elim
    | infinity t => exact (hone t).symm.trans h
    | finite t m e hm => exact (hone t).symm.trans h
  | finite t m e hm =>
    cases hu
    cases v with
    | notANumber => exact h.elim
    | zero t => exact h.elim
    | infinity t => exact (hone t).symm.trans h
    | finite t m' e' hm' => exact (hone t).symm.trans (signed_roundWithAccuracy h)

/-! ## Differences -/

/-- The mantissas and exponents of the numbers that a word can stand for. A mantissa is short at the
smallest exponent only. -/
structure Canonical (m : ℕ) (e : ℤ) : Prop where
  lt : m < 2 ^ 53
  le : -1074 ≤ e
  ge : e = -1074 ∨ 2 ^ 52 ≤ m

theorem canonical_of_unpack {x : Float} {s : Sign} {m : ℕ} {e : ℤ} {hm : 0 < m}
    (h : x.toModel.unpack = .finite s m e hm) : Canonical m e := by
  dsimp only [Float.Model.unpack, UnpackedFloat.unpack] at h
  have hbits : (@unpackMantissa .binary64 x.toModel.toBits.toBitVec).toNat < 2 ^ 52 :=
    (unpackMantissa _).isLt
  have hbias : Format.binary64.exponentBias = 1023 := rfl
  split_ifs at h with hspecial hnan hsmall
  · cases h
    refine ⟨hbits.trans (by norm_num), ?_, Or.inl ?_⟩
    · rw [hbias]
      omega
    · rw [hsmall, hbias]
      rfl
  · cases h
    have hone : 1 ≤ (@unpackExponent .binary64 x.toModel.toBits.toBitVec).toNat := by
      rw [Nat.one_le_iff_ne_zero]
      exact fun hz => hsmall (BitVec.eq_of_toNat_eq hz)
    have hmantissa : (1#1 ++ @unpackMantissa .binary64 x.toModel.toBits.toBitVec).toNat =
        2 ^ 52 + (@unpackMantissa .binary64 x.toModel.toBits.toBitVec).toNat := by
      rw [BitVec.toNat_append]
      exact (Nat.shiftLeft_add_eq_or_of_lt hbits 1).symm
    rw [hmantissa, hbias]
    exact ⟨by omega, by omega, Or.inr (by omega)⟩

/-- Of two numbers of one sign, the one of the smaller exponent is the smaller. -/
theorem compare_of_lt {m m' : ℕ} {e e' k : ℤ} (h : Canonical m e) (h' : Canonical m' e')
    (hk : k ≤ e) (hk' : k ≤ e') (hlt : m <<< (e - k).toNat < m' <<< (e' - k).toNat) :
    (compare e e').then (compare m m') = .lt := by
  rw [Nat.shiftLeft_eq, Nat.shiftLeft_eq] at hlt
  obtain hless | rfl | hmore := lt_trichotomy e e'
  · rw [compare_lt_iff_lt.mpr hless]
    rfl
  · rw [compare_eq_iff_eq.mpr rfl]
    exact compare_lt_iff_lt.mpr (lt_of_mul_lt_mul_right hlt (Nat.zero_le _))
  · -- The number of the larger exponent has a long mantissa, and so is the larger one.
    have hnormal : 2 ^ 52 ≤ m := h.ge.resolve_left (by have := h'.le; omega)
    have hshift : (e' - k).toNat + 1 ≤ (e - k).toNat := by omega
    have hge : 2 ^ 53 * 2 ^ (e' - k).toNat ≤ m * 2 ^ (e - k).toNat := by
      calc 2 ^ 53 * 2 ^ (e' - k).toNat = 2 ^ 52 * 2 ^ ((e' - k).toNat + 1) := by ring
        _ ≤ m * 2 ^ (e - k).toNat :=
          Nat.mul_le_mul hnormal (Nat.pow_le_pow_right two_pos hshift)
    have hle : m' * 2 ^ (e' - k).toNat ≤ 2 ^ 53 * 2 ^ (e' - k).toNat :=
      Nat.mul_le_mul_right _ h'.lt.le
    omega

/-- Numbers are in the order of their values, read at an exponent that is not above either. -/
theorem compare_finite_of_lt {s s' : Sign} {m m' : ℕ} {e e' k : ℤ} {hm : 0 < m} {hm' : 0 < m'}
    (h : Canonical m e) (h' : Canonical m' e') (hk : k ≤ e) (hk' : k ≤ e')
    (hlt : s.apply ↑(m <<< (e - k).toNat) < s'.apply ↑(m' <<< (e' - k).toNat)) :
    UnpackedFloat.compare (.finite s m e hm) (.finite s' m' e' hm') = some .lt := by
  cases s with
  | negative =>
    cases s' with
    | positive => rfl
    | negative =>
      have hlt' := compare_of_lt h' h hk' hk (Int.ofNat_lt.mp (neg_lt_neg_iff.mp hlt))
      show some ((compare e e').then (compare m m')).swap = some .lt
      rw [swap_compare, hlt']
  | positive =>
    cases s' with
    | negative =>
      have hpos : (0 : ℤ) ≤ ↑(m <<< (e - k).toNat) := Int.natCast_nonneg _
      have hpos' : (0 : ℤ) ≤ ↑(m' <<< (e' - k).toNat) := Int.natCast_nonneg _
      dsimp only [Sign.apply] at hlt
      omega
    | positive => exact congrArg some (compare_of_lt h h' hk hk' (Int.ofNat_lt.mp hlt))

/-- Is the value canonical, should it be a number? -/
def CanonicalValue : UnpackedFloat → Prop
  | .finite _ m e _ => Canonical m e
  | _ => True

theorem canonicalValue_unpack (x : Float) : CanonicalValue x.toModel.unpack := by
  cases h : x.toModel.unpack with
  | finite s m e hm => exact canonical_of_unpack h
  | _ => trivial

/-- A difference with a sign shows how its operands compare. -/
theorem signed_sub {f : Format} {s : Sign} {u v : UnpackedFloat} (hu : CanonicalValue u)
    (hv : CanonicalValue v) (h : Signed s (UnpackedFloat.sub f u v)) :
    match s with
    | .negative => u.compare v = some .lt
    | .positive => v.compare u = some .lt := by
  cases u with
  | notANumber => exact h.elim
  | infinity t =>
    cases v with
    | notANumber => exact h.elim
    | infinity t' => cases s <;> cases t <;> cases t' <;> first | rfl | cases h
    | zero t' => cases s <;> cases t <;> first | rfl | cases h
    | finite t' m' e' hm' => cases s <;> cases t <;> first | rfl | cases h
  | zero t =>
    cases v with
    | notANumber => exact h.elim
    | infinity t' => cases s <;> cases t' <;> first | rfl | cases h
    | zero t' => cases t <;> cases t' <;> cases h
    | finite t' m' e' hm' => cases s <;> cases t' <;> first | rfl | cases h
  | finite t m e hm =>
    cases v with
    | notANumber => exact h.elim
    | infinity t' => cases s <;> cases t' <;> cases t <;> first | rfl | cases h
    | zero t' => cases s <;> cases t <;> first | rfl | cases h
    | finite t' m' e' hm' =>
      -- The exact difference is taken at the smaller of the exponents.
      have hmantissa := signed_normalize h
      cases s with
      | negative =>
        exact compare_finite_of_lt hu hv (min_le_left e e') (min_le_right e e')
          (sub_neg.mp (neg_pos.mp hmantissa))
      | positive =>
        exact compare_finite_of_lt hv hu (min_le_right e e') (min_le_left e e')
          (sub_pos.mp hmantissa)

end Binary64

open Binary64

instance instSignLawsFloat : SignLaws Float where
  lt_asymm {x y} h h' := by
    have hgt := compare_asymm ((lt_iff x y).mp h)
    rw [(lt_iff y x).mp h'] at hgt
    cases hgt
  lt_of_sub_neg {x y} h :=
    (lt_iff x y).mpr (signed_sub (canonicalValue_unpack x) (canonicalValue_unpack y)
      (signed_of_pack ((lt_zero_iff (x - y)).mp h)))
  lt_of_sub_pos {x y} h :=
    (lt_iff y x).mpr (signed_sub (canonicalValue_unpack x) (canonicalValue_unpack y)
      (signed_of_pack ((zero_lt_iff (x - y)).mp h)))
  neg_of_mul_neg {k x} hk h :=
    (lt_zero_iff x).mpr (signed_mul ((zero_lt_iff k).mp hk)
      (signed_of_pack ((lt_zero_iff (k * x)).mp h)))
  pos_of_mul_pos {k x} hk h :=
    (zero_lt_iff x).mpr (signed_mul ((zero_lt_iff k).mp hk)
      (signed_of_pack ((zero_lt_iff (k * x)).mp h)))

instance instSignLawsReal : SignLaws ℝ where
  lt_asymm {x y} h := lt_asymm h
  lt_of_sub_neg {x y} h := by
    simp only [Scalar.real_lt, Scalar.real_sub, Scalar.real_zero] at *
    exact sub_neg.mp h
  lt_of_sub_pos {x y} h := by
    simp only [Scalar.real_lt, Scalar.real_sub, Scalar.real_zero] at *
    exact sub_pos.mp h
  neg_of_mul_neg {k x} hk h := by
    simp only [Scalar.real_lt, Scalar.real_mul, Scalar.real_zero] at *
    exact (pos_iff_neg_of_mul_neg h).mp hk
  pos_of_mul_pos {k x} hk h := by
    simp only [Scalar.real_lt, Scalar.real_mul, Scalar.real_zero] at *
    exact (pos_iff_pos_of_mul_pos h).mp hk

end BoomWalker
