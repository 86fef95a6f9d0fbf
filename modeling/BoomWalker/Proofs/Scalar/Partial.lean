/-
Exact arithmetic with an undefined value.

The real numbers are extended by one value, which is the result of an operation outside its domain
and of every operation on itself. A comparison with it is false. So a definition of the control law
that is read at these scalars rounds nothing, and still shows what it does when an operation has no
result.
-/
import BoomWalker.Proofs.Scalar.Real

namespace BoomWalker

/-- A real number, or the undefined result of an operation outside its domain. -/
inductive PartialReal where
  | undefined
  | of (x : ℝ)

namespace PartialReal

/-- Apply an operation that is defined everywhere. -/
def map (f : ℝ → ℝ) : PartialReal → PartialReal
  | of a => of (f a)
  | undefined => undefined

/-- Apply an operation of two operands that is defined everywhere. -/
def map₂ (f : ℝ → ℝ → ℝ) : PartialReal → PartialReal → PartialReal
  | of a, of b => of (f a b)
  | _, _ => undefined

/-- Apply an operation within its domain. -/
noncomputable def within (domain : Set ℝ) (f : ℝ → ℝ) : PartialReal → PartialReal
  | of a => @ite _ (a ∈ domain) (Classical.propDecidable _) (of (f a)) undefined
  | undefined => undefined

/-- Compare two values. Nothing is true of the undefined value. -/
def Compares (r : ℝ → ℝ → Prop) : PartialReal → PartialReal → Prop
  | of a, of b => r a b
  | _, _ => False

/-- Division by zero is undefined, and so are the inverse functions and the square root outside
their domains. -/
noncomputable instance instScalarPartialReal : Scalar PartialReal where
  add := map₂ fun a b => a + b
  sub := map₂ fun a b => a - b
  mul := map₂ fun a b => a * b
  div x y := map₂ (fun a b => a * b) x (within {b | b ≠ 0} (fun b => b⁻¹) y)
  neg := map fun a => -a
  lt := Compares fun a b => a < b
  le := Compares fun a b => a ≤ b
  beq x y := @decide (Compares (fun a b => a = b) x y) (Classical.propDecidable _)
  ofNat n := of n
  ofDecimal m neg e := of (Scalar.ofDecimal m neg e)
  pi := of Real.pi
  sin := map Real.sin
  cos := map Real.cos
  asin := within (Set.Icc (-1) 1) Real.arcsin
  acos := within (Set.Icc (-1) 1) Real.arccos
  sqrt := within (Set.Ici 0) Real.sqrt
  exp := map Real.exp
  abs := map fun a => |a|
  isNaN x := match x with
    | of _ => false
    | undefined => true
  decLt _ _ := Classical.propDecidable _
  decLe _ _ := Classical.propDecidable _

@[simp] theorem of_add (a b : ℝ) : of a + of b = of (a + b) := rfl

@[simp] theorem of_sub (a b : ℝ) : of a - of b = of (a - b) := rfl

@[simp] theorem of_mul (a b : ℝ) : of a * of b = of (a * b) := rfl

@[simp] theorem of_neg (a : ℝ) : -of a = of (-a) := rfl

theorem of_div (a : ℝ) {b : ℝ} (hb : b ≠ 0) : of a / of b = of (a / b) := by
  have hinverse : within {b | b ≠ 0} (fun b => b⁻¹) (of b) = of b⁻¹ := if_pos hb
  show map₂ (fun a b => a * b) (of a) (within {b | b ≠ 0} (fun b => b⁻¹) (of b)) = _
  rw [hinverse, div_eq_mul_inv]
  rfl

@[simp] theorem sin_of (a : ℝ) : Scalar.sin (of a) = of (Real.sin a) := rfl

@[simp] theorem cos_of (a : ℝ) : Scalar.cos (of a) = of (Real.cos a) := rfl

@[simp] theorem abs_of (a : ℝ) : Scalar.abs (of a) = of |a| := rfl

@[simp] theorem of_lt (a b : ℝ) : of a < of b ↔ a < b := Iff.rfl

@[simp] theorem of_le (a b : ℝ) : of a ≤ of b ↔ a ≤ b := Iff.rfl

@[simp] theorem isNaN_of (a : ℝ) : Scalar.isNaN (of a) = false := rfl

@[simp] theorem isNaN_undefined : Scalar.isNaN undefined = true := rfl

@[simp] theorem undefined_sub (x : PartialReal) : undefined - x = undefined := rfl

theorem zero_eq : (0 : PartialReal) = of 0 := congrArg of Nat.cast_zero

theorem one_eq : (1 : PartialReal) = of 1 := congrArg of Nat.cast_one

theorem numeral_eq (n : ℕ) [n.AtLeastTwo] :
    (OfNat.ofNat n : PartialReal) = of (OfNat.ofNat n) := rfl

/-- What is true of a comparison is true of defined values. -/
theorem compares_iff {r : ℝ → ℝ → Prop} {x y : PartialReal} :
    Compares r x y ↔ ∃ a b, x = of a ∧ y = of b ∧ r a b := by
  constructor
  · intro h
    match x, y, h with
    | of a, of b, h => exact ⟨a, b, rfl, rfl, h⟩
  · rintro ⟨a, b, rfl, rfl, h⟩
    exact h

theorem le_iff {x y : PartialReal} : x ≤ y ↔ ∃ a b, x = of a ∧ y = of b ∧ a ≤ b := compares_iff

theorem lt_iff {x y : PartialReal} : x < y ↔ ∃ a b, x = of a ∧ y = of b ∧ a < b := compares_iff

theorem maxNum_of (a b : ℝ) : Scalar.maxNum (of a) (of b) = of (max a b) :=
  Scalar.maxNum_embedding of_lt isNaN_of a b

theorem minNum_of (a b : ℝ) : Scalar.minNum (of a) (of b) = of (min a b) :=
  Scalar.minNum_embedding of_lt isNaN_of a b

/-- Two values are defined, and differ by no more than a bound. -/
def Near (bound x y : PartialReal) : Prop := Scalar.abs (x - y) ≤ bound

theorem near_of {d a b : ℝ} : Near (of d) (of a) (of b) ↔ |a - b| ≤ d := Iff.rfl

/-- A value near another one is defined. -/
theorem Near.defined {bound x y : PartialReal} (h : Near bound x y) : ∃ a, x = of a := by
  match x, y, h with
  | of a, of b, h => exact ⟨a, rfl⟩

end PartialReal

end BoomWalker
