/-
A rate limiter bounds how far a commanded quantity may move in one call. Its memory is the last
output.
-/
import BoomWalker.Scalar

namespace BoomWalker

/-- The memory of a rate limiter. -/
structure RateLimiter (α : Type) where
  value : α
deriving Inhabited

namespace RateLimiter

variable {α : Type} [Scalar α]

def zero : RateLimiter α := ⟨0⟩

/-- The largest step of one call for a limit in units per second. -/
def maxDelta (rate period : α) : α := rate * period

/-- Move towards `target` by at most `maxDelta`. A bound that is not positive holds the output, and
so does an undefined step. -/
def apply (l : RateLimiter α) (target maxDelta : α) : RateLimiter α :=
  let bound := if 0 < maxDelta then maxDelta else 0
  let step := target - l.value
  if Scalar.isNaN step then l
  else ⟨l.value + Scalar.minNum (Scalar.maxNum step (-bound)) bound⟩

end RateLimiter

end BoomWalker
