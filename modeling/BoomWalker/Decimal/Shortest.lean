/-
The shortest decimal that reads back to a binary64 value.

Of the decimals in the interval of reals that round to the value, those with the fewest digits are
candidates, and the nearest of them is taken; an exact tie goes to the larger.
-/
import BoomWalker.Decimal.Binary

namespace BoomWalker.Decimal

/-- Does the decimal round to the value? The interval is closed exactly when `m` is even. -/
def Binary.readsBack (x : Binary) (d : Dec) : Bool :=
  let low := if x.narrowBelow then 4 * x.m - 1 else 4 * x.m - 2
  let high := 4 * x.m + 2
  let closed := x.m % 2 = 0
  let cl := compareScaled d.digits d.exp low (x.q - 2)
  let ch := compareScaled d.digits d.exp high (x.q - 2)
  (cl = .gt || (closed && cl = .eq)) && (ch = .lt || (closed && ch = .eq))

/-- The neighbour of a positive value on the grid of `n` digits that reads back, if one does. -/
def Binary.onGrid (x : Binary) (n : Nat) : Option Dec :=
  let grid := x.leadingExponent + 1 - n
  let num := x.m * Nat.pow 2 x.q.toNat * Nat.pow 10 (-grid).toNat
  let den := Nat.pow 2 (-x.q).toNat * Nat.pow 10 grid.toNat
  let below : Dec := ⟨num / den, grid⟩
  let above : Dec := ⟨num / den + 1, grid⟩
  match x.readsBack below, x.readsBack above with
  | false, false => none
  | true, false => some below
  | false, true => some above
  | true, true => if roundDiv num den .up = num / den then some below else some above

/-- The shortest decimal that reads back to a positive value. Seventeen digits always do; were there
none, the answer is the value itself. -/
def Binary.shortest (x : Binary) : Dec :=
  match (List.range 17).findSome? fun i => x.onGrid (i + 1) with
  | some d => d.strip
  | none => Dec.strip
      ⟨x.m * Nat.pow 2 x.q.toNat * Nat.pow 5 (-x.q).toNat, if x.q < 0 then x.q else 0⟩

end BoomWalker.Decimal
