/-
Bytes of process data: words in little-endian order, and windows of a longer run of bytes.
-/

namespace BoomWalker

/-- A run of bytes. -/
abbrev Bytes := List UInt8

namespace Bytes

/-! ## Words -/

def ofWord16 (w : UInt16) : Bytes := [w.toUInt8, (w >>> 8).toUInt8]

def ofWord32 (w : UInt32) : Bytes :=
  [w.toUInt8, (w >>> 8).toUInt8, (w >>> 16).toUInt8, (w >>> 24).toUInt8]

/-- Take a word of 16 bits off the front. -/
def word16? : Bytes → Option (UInt16 × Bytes)
  | a :: b :: rest => some (a.toUInt16 ||| b.toUInt16 <<< 8, rest)
  | _ => none

/-- Take a word of 32 bits off the front. -/
def word32? : Bytes → Option (UInt32 × Bytes)
  | a :: b :: c :: d :: rest =>
    some (a.toUInt32 ||| b.toUInt32 <<< 8 ||| c.toUInt32 <<< 16 ||| d.toUInt32 <<< 24, rest)
  | _ => none

/-! ## Windows -/

/-- The window of a length from a start on, if it lies within the bytes. -/
def window? (start length : Nat) (bytes : Bytes) : Option Bytes :=
  if start + length ≤ bytes.length then some ((bytes.drop start).take length) else none

/-- Replace a window by other bytes of its length. -/
def overwrite (start : Nat) (source bytes : Bytes) : Bytes :=
  bytes.take start ++ source ++ bytes.drop (start + source.length)

/-- Put other bytes in from a start on, if they lie within the bytes. -/
def put (start : Nat) (source bytes : Bytes) : Bytes :=
  if start + source.length ≤ bytes.length then overwrite start source bytes else bytes

theorem length_overwrite {start : Nat} {source bytes : Bytes}
    (h : start + source.length ≤ bytes.length) :
    (overwrite start source bytes).length = bytes.length := by
  simp only [overwrite, List.length_append, List.length_take, List.length_drop]
  omega

theorem window?_overwrite {start : Nat} {source bytes : Bytes}
    (h : start + source.length ≤ bytes.length) :
    window? start source.length (overwrite start source bytes) = some source := by
  have hs : (bytes.take start).length = start := by rw [List.length_take]; omega
  rw [window?, if_pos (by rw [length_overwrite h]; exact h), overwrite, List.append_assoc,
    List.drop_left' hs, List.take_left' rfl]

end Bytes

end BoomWalker
