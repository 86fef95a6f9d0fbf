/-
Exact arithmetic with infinities and an undefined value.

The values are the extended real numbers, and one that is the result of an operation without a result:
infinities of opposite sign added up, zero times an infinity, an operation outside its domain, and every
operation on the undefined value itself. A comparison with it is false. So these are the values of
binary64 without the rounding, and with one zero, which counts as positive where it divides.
-/
import Mathlib
import BoomWalker.Proofs.Scalar.Real

namespace BoomWalker

/-- An extended real number, or the undefined result of an operation. -/
inductive ExtendedReal where
  | undefined
  | of (x : EReal)

namespace ExtendedReal

/-- A real number among the values. -/
abbrev real (x : ℝ) : ExtendedReal := of x

/-- The result of an operation, if its operand is in the domain. -/
noncomputable def within (domain : Set EReal) (f : EReal → EReal) : ExtendedReal → ExtendedReal
  | of a => @ite _ (a ∈ domain) (Classical.propDecidable _) (of (f a)) undefined
  | undefined => undefined

/-- The result of an operation of two operands, if they are in the domain. -/
noncomputable def within₂ (domain : Set (EReal × EReal)) (f : EReal → EReal → EReal) :
    ExtendedReal → ExtendedReal → ExtendedReal
  | of a, of b => @ite _ ((a, b) ∈ domain) (Classical.propDecidable _) (of (f a b)) undefined
  | _, _ => undefined

/-- Compare two values. Nothing is true of the undefined value. -/
def Compares (r : EReal → EReal → Prop) : ExtendedReal → ExtendedReal → Prop
  | of a, of b => r a b
  | _, _ => False

/-- Infinities of opposite sign have no sum. -/
def sums : Set (EReal × EReal) := {p | p ≠ (⊤, ⊥) ∧ p ≠ (⊥, ⊤)}

/-- Zero has no product with an infinity. -/
def products : Set (EReal × EReal) :=
  {p | (p.1 = 0 → p.2 ≠ ⊤ ∧ p.2 ≠ ⊥) ∧ (p.2 = 0 → p.1 ≠ ⊤ ∧ p.1 ≠ ⊥)}

/-- The values that are real numbers. -/
def finite : Set EReal := {a | a ≠ ⊤ ∧ a ≠ ⊥}

/-- A function of the real numbers. -/
noncomputable def lift (f : ℝ → ℝ) (a : EReal) : EReal := (f a.toReal : ℝ)

/-- One over a value. -/
noncomputable def inverse (a : EReal) : EReal := if a = 0 then ⊤ else a⁻¹

noncomputable instance instScalarExtendedReal : Scalar ExtendedReal where
  add := within₂ sums fun a b => a + b
  sub := within₂ {p | (p.1, -p.2) ∈ sums} fun a b => a - b
  mul := within₂ products fun a b => a * b
  div := within₂ {p | (p.1, inverse p.2) ∈ products} fun a b => a * inverse b
  neg := within Set.univ fun a => -a
  lt := Compares fun a b => a < b
  le := Compares fun a b => a ≤ b
  beq x y := @decide (Compares (fun a b => a = b) x y) (Classical.propDecidable _)
  ofNat n := of (n : ℝ)
  ofDecimal m neg e := real (Scalar.ofDecimal m neg e)
  pi := real Real.pi
  sin := within finite (lift Real.sin)
  cos := within finite (lift Real.cos)
  asin := within (Set.Icc (-1) 1) (lift Real.arcsin)
  acos := within (Set.Icc (-1) 1) (lift Real.arccos)
  sqrt := within (Set.Ici 0) fun a => if a = ⊤ then ⊤ else lift Real.sqrt a
  exp := within Set.univ fun a => if a = ⊤ then ⊤ else if a = ⊥ then 0 else lift Real.exp a
  abs := within Set.univ fun a => max a (-a)
  isNaN x := match x with
    | of _ => false
    | undefined => true
  decLt _ _ := Classical.propDecidable _
  decLe _ _ := Classical.propDecidable _

theorem within_of {domain : Set EReal} {f : EReal → EReal} {a : EReal} (h : a ∈ domain) :
    within domain f (of a) = of (f a) := if_pos h

theorem within₂_of {domain : Set (EReal × EReal)} {f : EReal → EReal → EReal} {a b : EReal}
    (h : (a, b) ∈ domain) : within₂ domain f (of a) (of b) = of (f a b) := if_pos h

@[simp] theorem isNaN_of (a : EReal) : Scalar.isNaN (of a) = false := rfl

@[simp] theorem isNaN_undefined : Scalar.isNaN undefined = true := rfl

@[simp] theorem of_lt (a b : EReal) : of a < of b ↔ a < b := Iff.rfl

@[simp] theorem not_lt_undefined (x : ExtendedReal) : ¬ x < undefined := by
  cases x <;> exact id

@[simp] theorem undefined_sub (x : ExtendedReal) : undefined - x = undefined := rfl

theorem real_ne_top (a : ℝ) : real a ≠ of ⊤ := by
  simp

theorem zero_eq : (0 : ExtendedReal) = real 0 := congrArg real Nat.cast_zero

theorem neg_real (a : ℝ) : -real a = real (-a) := within_of (Set.mem_univ _)

/-- A real number can be taken from every defined value. -/
theorem of_sub_real (a : EReal) (b : ℝ) : of a - real b = of (a - b) := by
  refine within₂_of ⟨?_, ?_⟩
  · simp [← EReal.coe_neg]
  · simp [← EReal.coe_neg]

theorem real_add (a b : ℝ) : real a + real b = real (a + b) := by
  refine within₂_of ⟨?_, ?_⟩
  · simp
  · simp

theorem maxNum_of (a b : EReal) : Scalar.maxNum (of a) (of b) = of (max a b) :=
  Scalar.maxNum_embedding of_lt isNaN_of a b

theorem minNum_of (a b : EReal) : Scalar.minNum (of a) (of b) = of (min a b) :=
  Scalar.minNum_embedding of_lt isNaN_of a b

end ExtendedReal

end BoomWalker
