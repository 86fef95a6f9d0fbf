/-
Finite binary64 values as exact integers: `m · 2 ^ q`, compared exactly with decimals.
-/

namespace BoomWalker.Decimal

/-- The magnitude of a finite binary64 value. -/
structure Binary where
  m : Nat
  q : Int
  /-- Is the gap to the value below only half the gap to the value above? -/
  narrowBelow : Bool
deriving DecidableEq, Repr

/-- A decimal `digits · 10 ^ exp`. -/
structure Dec where
  digits : Nat
  exp : Int
deriving DecidableEq, Repr

/-- The magnitude that the bits of a finite value stand for. -/
def Binary.ofBits (b : UInt64) : Binary :=
  let e := ((b >>> 52) &&& 0x7FF).toNat
  let f := (b &&& 0xFFFFFFFFFFFFF).toNat
  if e = 0 then ⟨f, -1074, false⟩ else ⟨Nat.pow 2 52 + f, (e : Int) - 1075, f = 0 ∧ 1 < e⟩

/-- Is the sign bit set? -/
def isSigned (x : Float) : Bool := x.toBits >>> 63 ≠ 0

/-- Compare `a · 10 ^ i` with `n · 2 ^ j`. -/
def compareScaled (a : Nat) (i : Int) (n : Nat) (j : Int) : Ordering :=
  compare (a * Nat.pow 10 i.toNat * Nat.pow 2 (-j).toNat)
    (n * Nat.pow 2 j.toNat * Nat.pow 10 (-i).toNat)

/-- The exponent `k` of the leading digit of a positive value: `10 ^ k ≤ m · 2 ^ q < 10 ^ (k + 1)`.
The binary logarithm gives it up to one. -/
def Binary.leadingExponent (x : Binary) : Int :=
  let guess := Int.fdiv ((x.m.log2 + x.q) * 30103) 100000
  if compareScaled 1 guess x.m x.q = .gt then guess - 1
  else if compareScaled 1 (guess + 1) x.m x.q = .gt then guess
  else guess + 1

/-- Which neighbour an exact tie goes to. -/
inductive Tie where
  | toEven
  | up
deriving DecidableEq, Repr

/-- Round `num / den` to an integer. -/
def roundDiv (num den : Nat) (t : Tie) : Nat :=
  let quot := num / den
  let rem := num % den
  match compare (2 * rem) den, t with
  | .lt, _ => quot
  | .gt, _ => quot + 1
  | .eq, .up => quot + 1
  | .eq, .toEven => if quot % 2 = 0 then quot else quot + 1

/-- The decimal digits of a number, most significant first; none for zero. -/
def digitsOf (n : Nat) : List Char := if n = 0 then [] else Nat.toDigits 10 n

/-- Drop trailing zeros of the digits into the exponent. -/
def Dec.strip (d : Dec) : Dec := go d.digits d.exp d.digits.log2
where
  go (n : Nat) (e : Int) : Nat → Dec
    | 0 => ⟨n, e⟩
    | fuel + 1 => if n % 10 = 0 ∧ n ≠ 0 then go (n / 10) (e + 1) fuel else ⟨n, e⟩

end BoomWalker.Decimal
