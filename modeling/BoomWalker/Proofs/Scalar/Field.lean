/-
Fields as scalars of the control law.

Some definitions of the control law need no more than the four operations of arithmetic. They can be
read in every field: `Scalar.ofField` takes these operations from the field, and whatever it is given
for the others. The real numbers are scalars of this kind (`ofField_real`).
-/
import BoomWalker.Proofs.Scalar.Real
import Mathlib.Algebra.Field.Defs

namespace BoomWalker.Scalar

/-- The operations of the control law that a field does not have. -/
structure Others (K : Type) extends LT K, LE K, BEq K where
  ofDecimal : Nat → Bool → Nat → K
  pi : K
  sin : K → K
  cos : K → K
  asin : K → K
  acos : K → K
  sqrt : K → K
  exp : K → K
  abs : K → K
  isNaN : K → Bool
  decLt : DecidableLT K
  decLe : DecidableLE K

/-- The operations of some scalars that a field does not have. -/
def others (K : Type) [s : Scalar K] : Others K := { s with }

variable {K : Type} [Field K]

/-- The elements of a field as scalars. A count is the sum of so many ones. -/
abbrev ofField (o : Others K) : Scalar K where
  toLT := o.toLT
  toLE := o.toLE
  toBEq := o.toBEq
  add x y := x + y
  sub x y := x - y
  mul x y := x * y
  div x y := x / y
  neg x := -x
  ofNat n := n
  ofDecimal := o.ofDecimal
  pi := o.pi
  sin := o.sin
  cos := o.cos
  asin := o.asin
  acos := o.acos
  sqrt := o.sqrt
  exp := o.exp
  abs := o.abs
  isNaN := o.isNaN
  decLt := o.decLt
  decLe := o.decLe

theorem ofField_real : ofField (others ℝ) = instScalarReal := rfl

variable (o : Others K) (x y : K)

theorem ofField_add : @HAdd.hAdd K K K (@instHAdd K (ofField o).toAdd) x y = x + y := rfl

theorem ofField_sub : @HSub.hSub K K K (@instHSub K (ofField o).toSub) x y = x - y := rfl

theorem ofField_mul : @HMul.hMul K K K (@instHMul K (ofField o).toMul) x y = x * y := rfl

theorem ofField_div : @HDiv.hDiv K K K (@instHDiv K (ofField o).toDiv) x y = x / y := rfl

theorem ofField_neg : @Neg.neg K (ofField o).toNeg x = -x := rfl

theorem ofField_one : @OfNat.ofNat K 1 (@instOfNatScalar K (ofField o) 1) = 1 := Nat.cast_one

theorem ofField_numeral (n : ℕ) [n.AtLeastTwo] :
    @OfNat.ofNat K n (@instOfNatScalar K (ofField o) n) = OfNat.ofNat n := rfl

end BoomWalker.Scalar
