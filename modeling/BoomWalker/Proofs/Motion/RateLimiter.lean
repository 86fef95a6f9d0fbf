/-
A rate limiter over exact arithmetic.

What a limiter does to its output is to move it towards the target (`moved`), by no more than its bound
(`abs_apply_sub_le`). Only the distance of the target matters: a limiter and a target that are both
displaced lead to a limiter that is displaced by as much (`apply_sub`). Two moves towards one target are
one move by both bounds (`moved_moved`).
-/
import BoomWalker.Motion.RateLimiter
import BoomWalker.Proofs.Scalar.Real

namespace BoomWalker.RateLimiter

/-! ## Moves towards a target -/

/-- A value, moved towards a target by no more than a bound. -/
noncomputable def moved (target bound v : ℝ) : ℝ := v + min (max (target - v) (-bound)) bound

section Moves

variable {target a b v : ℝ} (ha : 0 ≤ a) (hb : 0 ≤ b)

include hb

theorem moved_of_le (h : v ≤ target) : moved target b v = min target (v + b) := by
  rw [moved, max_eq_left (by linarith), ← min_add_add_left, add_sub_cancel]

theorem moved_of_ge (h : target ≤ v) : moved target b v = max target (v - b) := by
  have hmax : max (target - v) (-b) ≤ b := max_le (by linarith) (by linarith)
  rw [moved, min_eq_left hmax, ← max_add_add_left, add_sub_cancel, ← sub_eq_add_neg]

theorem abs_moved_sub_le : |moved target b v - v| ≤ b := by
  rw [moved, add_sub_cancel_left, abs_le]
  constructor
  · exact le_min (le_max_right _ _) (neg_le_self hb)
  · exact min_le_right _ _

/-- A move does not pass the target. -/
theorem moved_mem : moved target b v ∈ Set.uIcc v target := by
  rcases le_total v target with h | h
  · rw [moved_of_le hb h]
    exact Set.mem_uIcc_of_le (le_min h (by linarith)) (min_le_left _ _)
  · rw [moved_of_ge hb h]
    exact Set.mem_uIcc_of_ge (le_max_left _ _) (max_le h (by linarith))

/-- A move reaches the target if the bound lets it, and else goes as far as the bound. -/
theorem moved_eq_ite : moved target b v =
    if |target - v| ≤ b then target else if v < target then v + b else v - b := by
  split_ifs with hreach hbelow
  · obtain ⟨hlow, hhigh⟩ := abs_le.mp hreach
    rw [moved, max_eq_left hlow, min_eq_left hhigh, add_sub_cancel]
  · rw [abs_of_pos (sub_pos.mpr hbelow)] at hreach
    rw [moved_of_le hb hbelow.le, min_eq_right (by linarith)]
  · rw [abs_of_nonpos (by linarith)] at hreach
    rw [moved_of_ge hb (not_lt.mp hbelow), max_eq_right (by linarith)]

include ha

/-- Two moves towards a target are one by both bounds. -/
theorem moved_moved : moved target b (moved target a v) = moved target (a + b) v := by
  -- The first move stays on one side of the target, so the target bounds both moves in one way.
  rcases le_total v target with h | h
  · have htarget : min target (target + b) = target := min_eq_left (by linarith)
    rw [moved_of_le ha h, moved_of_le hb (min_le_left _ _), moved_of_le (add_nonneg ha hb) h,
      ← min_add_add_right, ← min_assoc, htarget, add_assoc]
  · have htarget : max target (target - b) = target := max_eq_left (by linarith)
    rw [moved_of_ge ha h, moved_of_ge hb (le_max_left _ _), moved_of_ge (add_nonneg ha hb) h,
      ← max_sub_sub_right, ← max_assoc, htarget, sub_sub]

end Moves

/-! ## One call -/

/-- A negative bound holds the output. -/
theorem apply_value (l : RateLimiter ℝ) (target bound : ℝ) :
    (l.apply target bound).value = moved target (max bound 0) l.value := by
  have hbound : (if 0 < bound then bound else 0) = max bound 0 := by
    rw [max_comm, max_def_lt]
  simp [apply, moved, hbound]

/-- A limiter moves by no more than the bound, whatever its target. -/
theorem abs_apply_sub_le (l : RateLimiter ℝ) (target : ℝ) {bound : ℝ} (hbound : 0 ≤ bound) :
    |(l.apply target bound).value - l.value| ≤ bound := by
  rw [apply_value, max_eq_left hbound]
  exact abs_moved_sub_le hbound

/-- A limiter follows its target wherever both of them are moved to. -/
theorem apply_sub (l : RateLimiter ℝ) (target bound δ : ℝ) :
    (⟨l.value - δ⟩ : RateLimiter ℝ).apply (target - δ) bound =
      ⟨(l.apply target bound).value - δ⟩ := by
  have hvalue : ((⟨l.value - δ⟩ : RateLimiter ℝ).apply (target - δ) bound).value =
      (l.apply target bound).value - δ := by
    rw [apply_value, apply_value, moved, moved, sub_sub_sub_cancel_right]
    ring
  rw [← hvalue]

end BoomWalker.RateLimiter
