/-
When the slaves' clocks give their first pulse.
-/
import BoomWalker.Clock

namespace BoomWalker.Clock

/-- The time from `now` to the first pulse: the next boundary of the period after `now + offset`, all
in nanoseconds, of which only the part below a second is counted. There is no answer for an empty
period, or if the sum does not fit a word of 64 bits. -/
def shift? (period offset now : Nat) : Option Nat :=
  let t := now % nanosPerSecond + offset
  if t ≤ Word.max64 ∧ 0 < period then some (period - t % period) else none

end BoomWalker.Clock
