/-
The two coordinates of a leg over exact arithmetic.

Main statement: the positions and rates of the two segments and the polar coordinates of the leg say
the same, as long as the leg is not fully extended. Segments of which B is ahead of A by less than a
turn are converted to polar coordinates and back without a change, and so is a leg that is shorter
than its two segments (`round_trips`).

Both directions are read off a leg in symmetric form: the segments stand at the same angle on either
side of the leg, and their rates differ from that of the leg by as much. In this form each conversion
is one equation (`motorPosToLegPos_symm` to `legVelToMotorVel_symm`). Every pair of segments has the
form, and so has every leg within reach (`exists_halfAngle`).

In the same form the radial stiffness is that of a spring which pushes along the leg as the two
rotational ones do (`radialStiffness_mul`).
-/
import BoomWalker.Motion.LegKinematics
import BoomWalker.Proofs.Scalar.Real
import Mathlib.Analysis.Real.Pi.Bounds

namespace BoomWalker.LegKinematics

open Real

variable {k : LegKinematics ℝ}

/-! ## The symmetric form -/

theorem motorPosToLegPos_symm (q half : ℝ) :
    k.motorPosToLegPos (q - half) (q + half) = (q, 2 * k.segLength * cos half) := by
  have hq : (q - half + (q + half)) / 2 = q := by ring
  have hhalf : (q + half - (q - half)) / 2 = half := by ring
  simp only [motorPosToLegPos, Scalar.real_add, Scalar.real_sub, Scalar.real_mul,
    Scalar.real_numeral, Scalar.real_cos, hq, hhalf]

theorem motorVelToLegVel_symm (q half dq s : ℝ) :
    k.motorVelToLegVel (q - half) (q + half) (dq + s) (dq - s) =
      (dq, 2 * k.segLength * sin half * s) := by
  have hdq : (dq + s + (dq - s)) / 2 = dq := by ring
  have hhalf : (q + half - (q - half)) / 2 = half := by ring
  have hs : dq - s - (dq + s) = -(2 * s) := by ring
  simp only [motorVelToLegVel, Scalar.real_add, Scalar.real_sub, Scalar.real_mul, Scalar.real_neg,
    Scalar.real_numeral, Scalar.real_sin, hdq, hhalf, hs]
  ring_nf

section Reach

variable (hl : 0 < k.segLength)

include hl

theorem legPosToMotorPos_symm (q : ℝ) {half : ℝ} (h0 : 0 ≤ half) (hpi : half ≤ π) :
    k.legPosToMotorPos q (2 * k.segLength * cos half) = (q - half, q + half) := by
  have hhalf : arccos (2 * k.segLength * cos half / (2 * k.segLength)) = half := by
    rw [mul_div_cancel_left₀ _ (mul_pos two_pos hl).ne', arccos_cos h0 hpi]
  simp only [legPosToMotorPos, Scalar.real_add, Scalar.real_sub, Scalar.real_mul, Scalar.real_div,
    Scalar.real_numeral, Scalar.real_acos, hhalf]

theorem legVelToMotorVel_symm {half : ℝ} (h0 : 0 < half) (hpi : half < π) (dq s : ℝ) :
    k.legVelToMotorVel (2 * k.segLength * cos half) dq (2 * k.segLength * sin half * s) =
      (dq + s, dq - s) := by
  have hsin : 0 < sin half := sin_pos_of_pos_of_lt_pi h0 hpi
  have hcos : 2 * k.segLength * cos half / (2 * k.segLength) = cos half :=
    mul_div_cancel_left₀ _ (mul_pos two_pos hl).ne'
  -- The root is the sine, which is positive for a leg that is not extended.
  have hroot : √(1 - cos half * cos half) = sin half := by
    rw [← sq, ← sin_sq, sqrt_sq hsin.le]
  have hs : 2 * k.segLength * sin half * s / (2 * k.segLength * sin half) = s :=
    mul_div_cancel_left₀ s (mul_pos (mul_pos two_pos hl) hsin).ne'
  simp only [legVelToMotorVel, Scalar.real_add, Scalar.real_sub, Scalar.real_mul, Scalar.real_one,
    Scalar.real_numeral, Scalar.real_sqrt, hcos, hroot, hs]

/-- A leg within reach has segments at some angle on either side of it. -/
theorem exists_halfAngle {r : ℝ} (hmin : -(2 * k.segLength) < r) (hmax : r < 2 * k.segLength) :
    ∃ half, 0 < half ∧ half < π ∧ r = 2 * k.segLength * cos half := by
  have hlength : 0 < 2 * k.segLength := mul_pos two_pos hl
  have hlow : -1 < r / (2 * k.segLength) := by
    rw [lt_div_iff₀ hlength]
    linarith
  have hhigh : r / (2 * k.segLength) < 1 := (div_lt_one hlength).mpr hmax
  refine ⟨arccos (r / (2 * k.segLength)), arccos_pos.mpr hhigh, ?_, ?_⟩
  · exact lt_of_le_of_ne (arccos_le_pi _) fun hpi => hlow.not_ge (arccos_eq_pi.mp hpi)
  · rw [cos_arccos hlow.le hhigh.le, mul_div_cancel₀ _ hlength.ne']

/-- Converting segments to polar coordinates and back changes nothing, and neither does converting a
leg to segments and back. -/
theorem round_trips :
    (∀ a b da db, 0 < b - a → b - a < 2 * π →
      let pos := k.motorPosToLegPos a b
      let vel := k.motorVelToLegVel a b da db
      k.legPosToMotorPos pos.1 pos.2 = (a, b) ∧
        k.legVelToMotorVel pos.2 vel.1 vel.2 = (da, db)) ∧
    ∀ q r dq dr, -(2 * k.segLength) < r → r < 2 * k.segLength →
      let pos := k.legPosToMotorPos q r
      let vel := k.legVelToMotorVel r dq dr
      k.motorPosToLegPos pos.1 pos.2 = (q, r) ∧
        k.motorVelToLegVel pos.1 pos.2 vel.1 vel.2 = (dq, dr) := by
  constructor
  · intro a b da db hab hpi pos vel
    -- Every pair of segments is symmetric about its mean, and every pair of rates about theirs.
    obtain ⟨q, half, rfl, rfl⟩ : ∃ q half, a = q - half ∧ b = q + half :=
      ⟨(a + b) / 2, (b - a) / 2, by ring, by ring⟩
    obtain ⟨dq, s, rfl, rfl⟩ : ∃ dq s, da = dq + s ∧ db = dq - s :=
      ⟨(da + db) / 2, (da - db) / 2, by ring, by ring⟩
    have h0 : 0 < half := by linarith
    have hpi' : half < π := by linarith
    have hpos : pos = (q, 2 * k.segLength * cos half) := motorPosToLegPos_symm q half
    have hvel : vel = (dq, 2 * k.segLength * sin half * s) := motorVelToLegVel_symm q half dq s
    rw [hpos, hvel]
    exact ⟨legPosToMotorPos_symm hl q h0.le hpi'.le, legVelToMotorVel_symm hl h0 hpi' dq s⟩
  · intro q r dq dr hmin hmax pos vel
    obtain ⟨half, h0, hpi, rfl⟩ := exists_halfAngle hl hmin hmax
    have hsin : 0 < sin half := sin_pos_of_pos_of_lt_pi h0 hpi
    obtain ⟨s, rfl⟩ : ∃ s, dr = 2 * k.segLength * sin half * s :=
      ⟨dr / (2 * k.segLength * sin half),
        (mul_div_cancel₀ dr (mul_pos (mul_pos two_pos hl) hsin).ne').symm⟩
    have hpos : pos = (q - half, q + half) := legPosToMotorPos_symm hl q h0.le hpi.le
    have hvel : vel = (dq + s, dq - s) := legVelToMotorVel_symm hl h0 hpi dq s
    rw [hpos, hvel]
    exact ⟨motorPosToLegPos_symm q half, motorVelToLegVel_symm q half dq s⟩

end Reach

/-- A bent leg, and a leg that is folded past its hip. -/
theorem standard_round_trips :
    let k : LegKinematics ℝ := .standard
    0 < k.segLength ∧ (0 : ℝ) < 1.9 - 1.2 ∧ 1.9 - 1.2 < 2 * π ∧
      -(2 * k.segLength) < -0.25 ∧ -0.25 < 2 * k.segLength ∧
      (let pos := k.motorPosToLegPos 1.2 1.9
        let vel := k.motorVelToLegVel 1.2 1.9 0.3 (-0.7)
        k.legPosToMotorPos pos.1 pos.2 = (1.2, 1.9) ∧
          k.legVelToMotorVel pos.2 vel.1 vel.2 = (0.3, -0.7)) ∧
      (let pos := k.legPosToMotorPos 1.6 (-0.25)
        let vel := k.legVelToMotorVel (-0.25) 0.4 (-2)
        k.motorPosToLegPos pos.1 pos.2 = (1.6, -0.25) ∧
          k.motorVelToLegVel pos.1 pos.2 vel.1 vel.2 = (0.4, -2)) := by
  intro k
  have hl : k.segLength = 1 / 2 := by norm_num [k, standard]
  have hpos : 0 < k.segLength := by norm_num [hl]
  have hab : (0 : ℝ) < 1.9 - 1.2 := by norm_num
  have hpi : (1.9 : ℝ) - 1.2 < 2 * π := by linarith [pi_gt_three]
  have hmin : -(2 * k.segLength) < -0.25 := by norm_num [hl]
  have hmax : -0.25 < 2 * k.segLength := by norm_num [hl]
  obtain ⟨hsegments, hleg⟩ := round_trips hpos
  exact ⟨hpos, hab, hpi, hmin, hmax, hsegments 1.2 1.9 0.3 (-0.7) hab hpi,
    hleg 1.6 (-0.25) 0.4 (-2) hmin hmax⟩

/-! ## The leg as a spring -/

/-- The polar coordinates of segments at rest in symmetric form. -/
theorem polar_still (q half : ℝ) :
    k.polar (q - half) (q + half) 0 0 = ⟨q, 2 * k.segLength * cos half, 0, 0⟩ := by
  have hvel := k.motorVelToLegVel_symm q half 0 0
  rw [add_zero, sub_zero, mul_zero] at hvel
  simp only [polar, motorPosToLegPos_symm, hvel]

/-- Outside the singular band the stiffness makes the radial spring push as the two rotational ones
do. -/
theorem radialStiffness_mul (hl : 0 < k.segLength) {half half0 : ℝ} (h : half ∈ Set.Icc 0 π)
    (h0 : half0 ∈ Set.Icc 0 π)
    (hapart : 1e-6 ≤ |2 * k.segLength * cos half - 2 * k.segLength * cos half0|) :
    k.radialStiffness (2 * k.segLength * cos half) (2 * k.segLength * cos half0) *
        (2 * k.segLength * cos half0 - 2 * k.segLength * cos half) =
      k.springRate * (half - half0) / (k.segLength * sin half) := by
  have hlength : 2 * k.segLength ≠ 0 := (mul_pos two_pos hl).ne'
  have hband : ¬ |2 * k.segLength * cos half - 2 * k.segLength * cos half0| < singularBand := by
    have hvalue : (singularBand : ℝ) = 1e-6 := by norm_num [singularBand]
    rw [hvalue]
    exact not_lt.mpr hapart
  have hdiff : 2 * k.segLength * cos half0 - 2 * k.segLength * cos half ≠ 0 := by
    intro hzero
    rw [← neg_sub, hzero, neg_zero, abs_zero] at hapart
    norm_num at hapart
  have hangle {x : ℝ} (hx : x ∈ Set.Icc 0 π) :
      arccos (2 * k.segLength * cos x / (2 * k.segLength)) = x := by
    rw [mul_div_cancel_left₀ _ hlength, arccos_cos hx.1 hx.2]
  have hstiffness : k.radialStiffness (2 * k.segLength * cos half) (2 * k.segLength * cos half0) =
      k.springRate * (half - half0) / (k.segLength * sin half) /
        (2 * k.segLength * cos half0 - 2 * k.segLength * cos half) := by
    simp only [radialStiffness, Scalar.real_sub, Scalar.real_mul, Scalar.real_div, Scalar.real_abs,
      Scalar.real_acos, Scalar.real_sin, Scalar.real_numeral, Scalar.real_lt]
    rw [if_neg hband, hangle h, hangle h0]
  rw [hstiffness, div_mul_cancel₀ _ hdiff]

end BoomWalker.LegKinematics
