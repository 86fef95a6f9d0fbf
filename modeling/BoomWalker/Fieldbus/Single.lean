/-
Words of 32 bits on the wire.

Every quantity travels as a binary32 word. The control law is written over any scalars, so the rest
of the fieldbus only asks for the two conversions of `Transmit`; here they are given for binary64.
Both work on bit patterns: narrowing rounds to nearest with ties to even, widening is exact.
-/
import BoomWalker.Decimal.Binary

namespace BoomWalker

/-- Scalars that travel as words of 32 bits. -/
class Transmit (α : Type) where
  toWord : α → UInt32
  ofWord : UInt32 → α

/-- What a scalar becomes by travelling. -/
def Transmit.round {α : Type} [Transmit α] (x : α) : α := ofWord (toWord x)

namespace Single

/-- The word of an undefined value. -/
def nan : UInt32 := 0x7FC00000

/-- The word of an infinite magnitude. -/
def infinity : Nat := 0x7F800000

/-- The word of the magnitude nearest to `m · 2 ^ q`. The unit of the last place is at least
`2 ^ -149`; a carry out of the digits moves on to the next exponent by itself. -/
def magnitude (b : Decimal.Binary) : Nat :=
  let unit : Int := max (b.m.log2 + b.q - 23) (-149)
  let digits :=
    if unit ≤ b.q then b.m * Nat.pow 2 (b.q - unit).toNat
    else Decimal.roundDiv b.m (Nat.pow 2 (unit - b.q).toNat) .toEven
  min (digits + (unit + 149).toNat * Nat.pow 2 23) infinity

/-- The word nearest to a binary64 value. -/
def ofFloat (x : Float) : UInt32 :=
  let bits := x.toBits
  let sign : UInt32 := if Decimal.isSigned x then 0x80000000 else 0
  if (bits >>> 52) &&& 0x7FF = 0x7FF then
    if bits &&& 0xFFFFFFFFFFFFF = 0 then sign ||| UInt32.ofNat infinity else nan
  else sign ||| UInt32.ofNat (magnitude (Decimal.Binary.ofBits bits))

/-- The bits of the binary64 value `m · 2 ^ q` of positive `m` below `2 ^ 24`. -/
def widen (m : Nat) (q : Int) : Nat :=
  (m.log2 + q + 1023).toNat * Nat.pow 2 52 + (m * Nat.pow 2 (52 - m.log2) - Nat.pow 2 52)

/-- The binary64 value of a word. -/
def toFloat (w : UInt32) : Float :=
  let sign : Nat := if w >>> 31 = 0 then 0 else Nat.pow 2 63
  let e := ((w >>> 23) &&& 0xFF).toNat
  let f := (w &&& 0x7FFFFF).toNat
  let bits :=
    if e = 0xFF then if f = 0 then 0x7FF * Nat.pow 2 52 else 0x7FF8 * Nat.pow 2 48
    else if e = 0 then if f = 0 then 0 else widen f (-149)
    else widen (Nat.pow 2 23 + f) (e - 150)
  Float.ofBits (UInt64.ofNat (sign + bits))

end Single

instance instTransmitFloat : Transmit Float where
  toWord := Single.ofFloat
  ofWord := Single.toFloat

end BoomWalker
