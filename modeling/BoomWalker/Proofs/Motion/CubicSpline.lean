/-
The cubic polynomial over exact arithmetic.

It has the given value and slope at both ends of its domain (`eval_x0`, `eval_x1`), in whichever order
they lie, and the slope that it returns is the derivative of the value everywhere
(`hasDerivAt_eval`). Two polynomials of which the second begins where the first ends, with the same
value and slope, make one smooth curve (`hasDerivAt_join`). Outside of its domain a polynomial that is
flat at both ends soon leaves the range between its values (`eval_before`, `eval_after`).
-/
import BoomWalker.Proofs.Motion.Hermite

namespace BoomWalker.CubicSpline

/-! ## The polynomial by the position in the domain -/

/-- Where a point lies in the domain, whose ends are at zero and one. -/
noncomputable def position (c : CubicSpline ℝ) (x : ℝ) : ℝ := (x - c.x0) / (c.x1 - c.x0)

section Values

variable (c : CubicSpline ℝ) (x : ℝ)

theorem eval_fst : (c.eval x).1 =
    (2 * c.position x ^ 3 - 3 * c.position x ^ 2 + 1) * c.y0 +
      (c.position x ^ 3 - 2 * c.position x ^ 2 + c.position x) * ((c.x1 - c.x0) * c.dy0) +
      (3 * c.position x ^ 2 - 2 * c.position x ^ 3) * c.y1 +
      (c.position x ^ 3 - c.position x ^ 2) * ((c.x1 - c.x0) * c.dy1) := by
  simp only [eval, position, Scalar.real_add, Scalar.real_sub, Scalar.real_mul, Scalar.real_div,
    Scalar.real_neg, Scalar.real_one, Scalar.real_numeral]
  ring

theorem eval_snd : (c.eval x).2 =
    (6 * c.position x ^ 2 - 6 * c.position x) * (c.y0 / (c.x1 - c.x0)) +
      (3 * c.position x ^ 2 - 4 * c.position x + 1) * c.dy0 +
      (6 * c.position x - 6 * c.position x ^ 2) * (c.y1 / (c.x1 - c.x0)) +
      (3 * c.position x ^ 2 - 2 * c.position x) * c.dy1 := by
  simp only [eval, position, Scalar.real_add, Scalar.real_sub, Scalar.real_mul, Scalar.real_div,
    Scalar.real_neg, Scalar.real_one, Scalar.real_numeral]
  ring

/-- The polynomial starts at the first end. -/
theorem eval_x0 : c.eval c.x0 = (c.y0, c.dy0) := by
  have hposition : c.position c.x0 = 0 := by
    rw [position, sub_self, zero_div]
  apply Prod.ext
  · rw [eval_fst, hposition]
    ring
  · rw [eval_snd, hposition]
    ring

/-- A polynomial that is flat at both ends. -/
theorem eval_flat (h0 : c.dy0 = 0) (h1 : c.dy1 = 0) : c.eval x =
    (c.y0 + (3 * c.position x ^ 2 - 2 * c.position x ^ 3) * (c.y1 - c.y0),
      (6 * c.position x - 6 * c.position x ^ 2) * ((c.y1 - c.y0) / (c.x1 - c.x0))) := by
  apply Prod.ext
  · rw [eval_fst, h0, h1]
    ring
  · rw [eval_snd, h0, h1]
    ring

end Values

variable {c d : CubicSpline ℝ}

/-- The polynomial ends at the second end. -/
theorem eval_x1 (hc : c.x0 ≠ c.x1) : c.eval c.x1 = (c.y1, c.dy1) := by
  have hposition : c.position c.x1 = 1 := div_self (sub_ne_zero.mpr hc.symm)
  apply Prod.ext
  · rw [eval_fst, hposition]
    ring
  · rw [eval_snd, hposition]
    ring

/-- A flat polynomial is continued steeply: a domain's length before its start it has overshot by four
times its rise. -/
theorem eval_before (hc : c.x0 ≠ c.x1) (h0 : c.dy0 = 0) (h1 : c.dy1 = 0) :
    c.eval (c.x0 - (c.x1 - c.x0)) =
      (c.y1 + 4 * (c.y1 - c.y0), -12 * ((c.y1 - c.y0) / (c.x1 - c.x0))) := by
  have hposition : c.position (c.x0 - (c.x1 - c.x0)) = -1 := by
    rw [position, sub_sub_cancel_left, neg_div, div_self (sub_ne_zero.mpr hc.symm)]
  rw [eval_flat c _ h0 h1, hposition]
  apply Prod.ext
  · ring
  · ring

/-- A domain's length past its end it has overshot by as much in the other direction. -/
theorem eval_after (hc : c.x0 ≠ c.x1) (h0 : c.dy0 = 0) (h1 : c.dy1 = 0) :
    c.eval (c.x1 + (c.x1 - c.x0)) =
      (c.y0 - 4 * (c.y1 - c.y0), -12 * ((c.y1 - c.y0) / (c.x1 - c.x0))) := by
  have hlength : c.x1 - c.x0 ≠ 0 := sub_ne_zero.mpr hc.symm
  have hposition : c.position (c.x1 + (c.x1 - c.x0)) = 2 := by
    rw [position, div_eq_iff hlength]
    ring
  rw [eval_flat c _ h0 h1, hposition]
  apply Prod.ext
  · ring
  · ring

/-! ## The slope -/

/-- The slope is the derivative of the value, inside the domain and outside of it. -/
theorem hasDerivAt_eval (hc : c.x0 ≠ c.x1) (x : ℝ) :
    HasDerivAt (fun x => (c.eval x).1) (c.eval x).2 x := by
  have heval (x : ℝ) : c.eval x =
      (c.polynomial.eval x, (Polynomial.derivative c.polynomial).eval x) :=
    eval_ofField hc (Scalar.others ℝ) x
  simp only [heval]
  exact c.polynomial.hasDerivAt x

/-- Two polynomials make a smooth curve if the second begins as the first ends. -/
theorem hasDerivAt_join (hc : c.x0 ≠ c.x1) (hd : d.x0 ≠ d.x1) (hx : d.x0 = c.x1)
    (hy : d.y0 = c.y1) (hdy : d.dy0 = c.dy1) (x : ℝ) :
    HasDerivAt (fun x => ((if x ≤ c.x1 then c else d).eval x).1)
      ((if x ≤ c.x1 then c else d).eval x).2 x := by
  have hleft := hasDerivAt_eval hc x
  have hright := hasDerivAt_eval hd x
  rcases lt_trichotomy x c.x1 with hlt | rfl | hgt
  · rw [if_pos hlt.le]
    refine hleft.congr_of_eventuallyEq ?_
    filter_upwards [eventually_lt_nhds hlt] with y hy
    rw [if_pos hy.le]
  · -- Where they meet, each of them is the curve on its own side.
    have hmeet : d.eval c.x1 = c.eval c.x1 := by
      rw [eval_x1 hc, ← hx, eval_x0, hy, hdy]
    rw [if_pos le_rfl, ← hasDerivWithinAt_univ, ← Set.Iic_union_Ici (a := c.x1)]
    refine HasDerivWithinAt.union ?_ ?_
    · refine hleft.hasDerivWithinAt.congr_of_mem (fun y hy => ?_) Set.self_mem_Iic
      rw [if_pos (Set.mem_Iic.mp hy)]
    · rw [← hmeet]
      refine hright.hasDerivWithinAt.congr_of_mem (fun y hy => ?_) Set.self_mem_Ici
      split
      · next hle => rw [le_antisymm hle hy, hmeet]
      · rfl
  · rw [if_neg hgt.not_ge]
    refine hright.congr_of_eventuallyEq ?_
    filter_upwards [eventually_gt_nhds hgt] with y hy
    rw [if_neg hy.not_ge]

end BoomWalker.CubicSpline
