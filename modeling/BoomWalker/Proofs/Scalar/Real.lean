/-
Exact arithmetic: the real numbers as scalars of the control law.

The operations are those of the real numbers, so no value is undefined and nothing is rounded.
Outside its domain an operation has the value that the real numbers give it; a statement that
meets such a point says so.

A definition of the control law that is read at the real numbers names its operations through
`Scalar`. The lemmas below turn each of them into the operation of the real numbers.
-/
import BoomWalker.Scalar
import Mathlib.Analysis.SpecialFunctions.Trigonometric.Inverse

namespace BoomWalker

-- Shortcuts, found before the operations of the scalars: `+` between real numbers is their own.

noncomputable instance instAddReal : Add ℝ := inferInstance

noncomputable instance instSubReal : Sub ℝ := inferInstance

noncomputable instance instMulReal : Mul ℝ := inferInstance

noncomputable instance instDivReal : Div ℝ := inferInstance

noncomputable instance instNegReal : Neg ℝ := inferInstance

instance instLTReal : LT ℝ := inferInstance

instance instLEReal : LE ℝ := inferInstance

noncomputable instance instScalarReal : Scalar ℝ where
  beq x y := decide (x = y)
  ofNat n := n
  ofDecimal m neg e := if neg then m / 10 ^ e else m * 10 ^ e
  pi := Real.pi
  sin := Real.sin
  cos := Real.cos
  asin := Real.arcsin
  acos := Real.arccos
  sqrt := Real.sqrt
  exp := Real.exp
  abs x := |x|
  isNaN _ := false
  decLt := inferInstance
  decLe := inferInstance

namespace Scalar

@[simp] theorem real_add (x y : ℝ) : @HAdd.hAdd ℝ ℝ ℝ (@instHAdd ℝ Scalar.toAdd) x y = x + y := rfl

@[simp] theorem real_sub (x y : ℝ) : @HSub.hSub ℝ ℝ ℝ (@instHSub ℝ Scalar.toSub) x y = x - y := rfl

@[simp] theorem real_mul (x y : ℝ) : @HMul.hMul ℝ ℝ ℝ (@instHMul ℝ Scalar.toMul) x y = x * y := rfl

@[simp] theorem real_div (x y : ℝ) : @HDiv.hDiv ℝ ℝ ℝ (@instHDiv ℝ Scalar.toDiv) x y = x / y := rfl

@[simp] theorem real_neg (x : ℝ) : @Neg.neg ℝ Scalar.toNeg x = -x := rfl

@[simp] theorem real_lt (x y : ℝ) : @LT.lt ℝ Scalar.toLT x y ↔ x < y := Iff.rfl

@[simp] theorem real_le (x y : ℝ) : @LE.le ℝ Scalar.toLE x y ↔ x ≤ y := Iff.rfl

@[simp] theorem real_ofNat (n : ℕ) : (Scalar.ofNat n : ℝ) = n := rfl

@[simp] theorem real_zero : @OfNat.ofNat ℝ 0 (instOfNatScalar 0) = 0 := Nat.cast_zero

@[simp] theorem real_one : @OfNat.ofNat ℝ 1 (instOfNatScalar 1) = 1 := Nat.cast_one

@[simp] theorem real_numeral (n : ℕ) [n.AtLeastTwo] :
    @OfNat.ofNat ℝ n (instOfNatScalar n) = OfNat.ofNat n := rfl

@[simp] theorem real_decimal (m e : ℕ) :
    @OfScientific.ofScientific ℝ instOfScientificScalar m true e = m / 10 ^ e := rfl

@[simp] theorem real_pi : (Scalar.pi : ℝ) = Real.pi := rfl

@[simp] theorem real_halfPi : (Scalar.halfPi : ℝ) = Real.pi / 2 := rfl

@[simp] theorem real_sin (x : ℝ) : Scalar.sin x = Real.sin x := rfl

@[simp] theorem real_cos (x : ℝ) : Scalar.cos x = Real.cos x := rfl

@[simp] theorem real_acos (x : ℝ) : Scalar.acos x = Real.arccos x := rfl

@[simp] theorem real_sqrt (x : ℝ) : Scalar.sqrt x = Real.sqrt x := rfl

@[simp] theorem real_abs (x : ℝ) : Scalar.abs x = |x| := rfl

@[simp] theorem real_exp (x : ℝ) : Scalar.exp x = Real.exp x := rfl

@[simp] theorem real_isNaN (x : ℝ) : Scalar.isNaN x = false := rfl

@[simp] theorem real_maxNum (x y : ℝ) : Scalar.maxNum x y = max x y := by
  rw [max_comm, max_def_lt]
  rfl

@[simp] theorem real_minNum (x y : ℝ) : Scalar.minNum x y = min x y := by
  rw [min_def_lt]
  rfl

/-- A value within its bounds is left as it is. -/
theorem real_clamp_of_mem {x lo hi : ℝ} (h : x ∈ Set.Icc lo hi) : Scalar.clamp x lo hi = x := by
  have hhi : ¬ hi < x := not_lt.mpr h.2
  have hlo : ¬ x < lo := not_lt.mpr h.1
  simp only [Scalar.clamp, real_lt, if_neg hhi, if_neg hlo]

section Embedding

variable {α β : Type} [Scalar α] [LinearOrder β] {e : β → α} (hlt : ∀ a b, e a < e b ↔ a < b)
  (hdefined : ∀ a, Scalar.isNaN (e a) = false)

include hlt hdefined

/-- Defined values that keep an order have its greater elements. -/
theorem maxNum_embedding (a b : β) : Scalar.maxNum (e a) (e b) = e (max a b) := by
  rw [Scalar.maxNum, hdefined, if_neg Bool.false_ne_true, max_comm, max_def_lt, apply_ite e]
  exact if_congr (hlt b a) rfl rfl

/-- Defined values that keep an order have its smaller elements. -/
theorem minNum_embedding (a b : β) : Scalar.minNum (e a) (e b) = e (min a b) := by
  rw [Scalar.minNum, hdefined, if_neg Bool.false_ne_true, min_def_lt, apply_ite e]
  exact if_congr (hlt a b) rfl rfl

end Embedding

end Scalar

end BoomWalker
