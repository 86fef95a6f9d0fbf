/-
Lengths of time.
-/
import BoomWalker.Decimal.Binary
import BoomWalker.Word

namespace BoomWalker.Clock

def nanosPerSecond : Nat := 1000000000

/-- A length of time given in milliseconds and nanoseconds, in seconds. There is no answer if the
nanoseconds do not fit a word. -/
def seconds? (ms ns : Int) : Option Float :=
  let total := ms * 1000000 + ns
  if Word.fitsSigned64 total then some (Float.ofInt total / Float.ofNat nanosPerSecond) else none

/-- A length of time given in seconds, in whole nanoseconds, of which a half goes to the even
neighbour. There is no answer for a negative length, an undefined one, or one whose seconds do not
fit a word of 64 bits. -/
def nanos? (x : Float) : Option Nat :=
  if 0 ≤ x ∧ x < 18446744073709551616 then
    let b := Decimal.Binary.ofBits x.toBits
    some (Decimal.roundDiv (b.m * nanosPerSecond * Nat.pow 2 b.q.toNat)
      (Nat.pow 2 (-b.q).toNat) .toEven)
  else none

end BoomWalker.Clock
