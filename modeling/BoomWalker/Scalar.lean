/-
The arithmetic that the control law is written in.

Every numeric definition of the library is written once, over `Scalar`, in a fixed order of
operations. The running controller uses the instance at `Float`; statements about the control
law can be read at any other instance, such as the real numbers or an exact field extended by an
undefined value. The class carries operations only and no laws: an instance may be inexact.
-/

namespace BoomWalker

/-- The operations of the control law. Comparisons answer `false` when an operand is undefined. -/
class Scalar (α : Type) extends Add α, Sub α, Mul α, Div α, Neg α, LT α, LE α, BEq α where
  /-- The value of a count. -/
  ofNat : Nat → α
  /-- The value of the decimal `m · 10 ^ e`, or `m · 10 ^ -e` if the flag is set. -/
  ofDecimal : Nat → Bool → Nat → α
  /-- Half the circumference of the unit circle. -/
  pi : α
  sin : α → α
  cos : α → α
  asin : α → α
  acos : α → α
  sqrt : α → α
  exp : α → α
  abs : α → α
  /-- Is the value the undefined result of an operation outside its domain? -/
  isNaN : α → Bool
  decLt : DecidableLT α
  decLe : DecidableLE α

namespace Scalar

variable {α : Type} [Scalar α]

instance instDecidableLT : DecidableLT α := Scalar.decLt

instance instDecidableLE : DecidableLE α := Scalar.decLe

instance (priority := 50) instOfNatScalar (n : Nat) : OfNat α n := ⟨Scalar.ofNat n⟩

instance (priority := 50) instOfScientificScalar : OfScientific α := ⟨Scalar.ofDecimal⟩

instance (priority := low) instInhabitedScalar : Inhabited α := ⟨0⟩

/-- A quarter turn. -/
def halfPi : α := Scalar.pi / 2

/-- The larger operand; an undefined operand is passed over. -/
def maxNum (x y : α) : α :=
  if y < x then x else if Scalar.isNaN y then x else y

/-- The smaller operand; an undefined operand is passed over. -/
def minNum (x y : α) : α :=
  if x < y then x else if Scalar.isNaN y then x else y

/-- Restrict `v` to `[lo, hi]`. The lower bound wins if the bounds cross, and an undefined bound
does not restrict. -/
def clamp (v lo hi : α) : α :=
  let below := if hi < v then hi else v
  if below < lo then lo else below

/-- Restrict `v` to the symmetric range of half width `|limit|`. -/
def clampAbs (v limit : α) : α :=
  clamp v (-(Scalar.abs limit)) (Scalar.abs limit)

end Scalar

/-- The controller computes in binary64. -/
instance instScalarFloat : Scalar Float where
  ofNat := Float.ofNat
  ofDecimal := Float.ofScientific
  pi := 3.141592653589793
  sin := Float.sin
  cos := Float.cos
  asin := Float.asin
  acos := Float.acos
  sqrt := Float.sqrt
  exp := Float.exp
  abs := Float.abs
  isNaN := Float.isNaN
  decLt := Float.decLt
  decLe := Float.decLe

end BoomWalker
