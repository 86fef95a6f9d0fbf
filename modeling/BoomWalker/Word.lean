/-
The ranges of machine words.

Counters that go over the wire, or that stop at their largest value, keep their width. The others
count cycles, frames, steps or touchdowns one at a time, up to a bound of their own or in a word of 64
bits, which at a thousand counts a second lasts for five hundred million years. They are natural
numbers here.
-/

namespace BoomWalker.Word

/-- The largest word of 16 bits. -/
def max16 : Nat := 65535

/-- The largest word of 32 bits. -/
def max32 : Nat := 4294967295

/-- The largest word of 64 bits. -/
def max64 : Nat := 18446744073709551615

/-- Is a number within the range of a signed word of 64 bits? -/
def fitsSigned64 (n : Int) : Bool := -9223372036854775808 ≤ n ∧ n ≤ 9223372036854775807

end BoomWalker.Word
