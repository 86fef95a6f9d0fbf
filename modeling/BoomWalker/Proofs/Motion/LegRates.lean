/-
The rates of a leg in motion, over exact arithmetic.

Positions and rates are converted by definitions of their own, from the segments of a leg to its polar
coordinates and back. In both directions the converted rates are the time derivatives of the converted
positions: along every motion of the segments (`polar_moves`), and along every motion of a leg that is
not fully extended (`hasDerivAt_legPosToMotorPos`).
-/
import Mathlib
import BoomWalker.Motion.LegKinematics
import BoomWalker.Proofs.Scalar.Real

namespace BoomWalker

open Real

/-- The rates of a leg in motion are the time derivatives of its angle and length, at a time. -/
structure LegPolar.Moves (x : ℝ → LegPolar ℝ) (t : ℝ) : Prop where
  q : HasDerivAt (fun τ => (x τ).q) (x t).dq t
  r : HasDerivAt (fun τ => (x τ).r) (x t).dr t

namespace LegKinematics

variable {k : LegKinematics ℝ} {t : ℝ}

/-! ## From the segments to the leg -/

theorem polar_moves {a b da db : ℝ → ℝ} (ha : HasDerivAt a (da t) t) (hb : HasDerivAt b (db t) t) :
    LegPolar.Moves (fun τ => k.polar (a τ) (b τ) (da τ) (db τ)) t where
  q := (ha.add hb).div_const 2
  r := by
    have hhalf : HasDerivAt (fun τ => (b τ - a τ) / 2) ((db t - da t) / 2) t :=
      (hb.sub ha).div_const 2
    have hlength : HasDerivAt (fun τ => 2 * k.segLength * cos ((b τ - a τ) / 2))
        (-k.segLength * sin ((b t - a t) / 2) * (db t - da t)) t :=
      (hhalf.cos.const_mul (2 * k.segLength)).congr_deriv (by ring)
    exact hlength

/-! ## From the leg to the segments -/

/-- The angle between the leg and either of its segments. -/
theorem hasDerivAt_halfAngle {r : ℝ → ℝ} {dr : ℝ} (hr : HasDerivAt r dr t)
    (hreach : |r t| < 2 * k.segLength) :
    let n := r t / (2 * k.segLength)
    HasDerivAt (fun τ => arccos (r τ / (2 * k.segLength)))
      (-(dr / (2 * k.segLength * √(1 - n * n)))) t := by
  intro n
  have hlength : 0 < 2 * k.segLength := (abs_nonneg (r t)).trans_lt hreach
  -- Strictly inside its range, where the arc cosine has a derivative: at full reach it has none.
  have hn : |n| < 1 := by
    rw [abs_div, abs_of_pos hlength]
    exact (div_lt_one hlength).mpr hreach
  obtain ⟨hlow, hhigh⟩ := abs_lt.mp hn
  have harccos : HasDerivAt arccos (-(1 / √(1 - n ^ 2))) n := hasDerivAt_arccos hlow.ne' hhigh.ne
  refine (harccos.comp t (hr.div_const (2 * k.segLength))).congr_deriv ?_
  rw [sq, neg_mul, div_mul_div_comm, one_mul, mul_comm (√(1 - n * n))]

/-- The rates of the segments are the derivatives of their positions. -/
theorem hasDerivAt_legPosToMotorPos {q r : ℝ → ℝ} {dq dr : ℝ} (hq : HasDerivAt q dq t)
    (hr : HasDerivAt r dr t) (hreach : |r t| < 2 * k.segLength) :
    HasDerivAt (fun τ => k.legPosToMotorPos (q τ) (r τ)) (k.legVelToMotorVel (r t) dq dr) t := by
  -- Motor A is behind the leg by the half angle and motor B ahead of it, so their rates differ by its
  -- sign only.
  have hhalf := hasDerivAt_halfAngle hr hreach
  refine ((hq.sub hhalf).prodMk (hq.add hhalf)).congr_deriv ?_
  rw [sub_neg_eq_add, ← sub_eq_add_neg]
  simp only [legVelToMotorVel, Scalar.real_add, Scalar.real_sub, Scalar.real_mul, Scalar.real_div,
    Scalar.real_one, Scalar.real_numeral, Scalar.real_sqrt]

end LegKinematics

end BoomWalker
