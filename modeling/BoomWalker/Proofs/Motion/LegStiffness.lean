/-
The sign of the radial stiffness, and what it tends to at the rest length, over exact arithmetic.

The stiffness is the force of the two rotational springs over the compression of the leg. The half
angle falls as the leg gets longer, so the force and the compression have one sign, and their ratio
is positive (`forceRatio_pos`). At the rest length both vanish. The ratio tends to a limit there,
since the half angle has a derivative (`tendsto_forceRatio`), and near the rest length the stiffness
is that limit (`radialStiffness_eq_ite`).

Main statement: the stiffness of a leg within reach is positive on both sides of the singular band
and inside it, so the leg is always pushed towards its rest length (`legStiffness_restores`).
-/
import Mathlib
import BoomWalker.Proofs.Motion.LegRates

namespace BoomWalker.LegKinematics

open Real Filter Topology

/-! ## The two branches -/

section Branches

variable {α : Type} [Scalar α]

/-- The angle between the leg and either of its segments, at a length of the leg. -/
def halfAngle (k : LegKinematics α) (r : α) : α := Scalar.acos (r / (2 * k.segLength))

/-- The radial force at a length for a rest length, over the compression of the leg. -/
def forceRatio (k : LegKinematics α) (r r0 : α) : α :=
  k.springRate * (k.halfAngle r - k.halfAngle r0) / (k.segLength * Scalar.sin (k.halfAngle r)) /
    (r0 - r)

/-- The stiffness of a leg at its rest length. -/
def restStiffness (k : LegKinematics α) (r0 : α) : α :=
  let n0 := r0 / (2 * k.segLength)
  k.springRate / (2 * k.segLength * k.segLength * (1 - n0 * n0))

theorem radialStiffness_eq_ite (k : LegKinematics α) (r r0 : α) :
    k.radialStiffness r r0 =
      if Scalar.abs (r - r0) < singularBand then k.restStiffness r0 else k.forceRatio r r0 := rfl

end Branches

variable {k : LegKinematics ℝ} {r r0 : ℝ}

theorem halfAngle_eq (k : LegKinematics ℝ) (r : ℝ) :
    k.halfAngle r = arccos (r / (2 * k.segLength)) := by
  simp only [halfAngle, Scalar.real_acos, Scalar.real_div, Scalar.real_mul, Scalar.real_numeral]

theorem forceRatio_eq (k : LegKinematics ℝ) (r r0 : ℝ) : k.forceRatio r r0 =
    k.springRate * (k.halfAngle r - k.halfAngle r0) / (k.segLength * sin (k.halfAngle r)) /
      (r0 - r) := by
  simp only [forceRatio, Scalar.real_sub, Scalar.real_mul, Scalar.real_div, Scalar.real_sin]

theorem restStiffness_eq (k : LegKinematics ℝ) (r0 : ℝ) : k.restStiffness r0 =
    k.springRate / (2 * k.segLength ^ 2 * (1 - (r0 / (2 * k.segLength)) ^ 2)) := by
  simp only [restStiffness, Scalar.real_sub, Scalar.real_mul, Scalar.real_div, Scalar.real_one,
    Scalar.real_numeral, sq, mul_assoc]

/-! ## Signs -/

section Reach

variable (hl : 0 < k.segLength) (hr : |r| < 2 * k.segLength) (hr0 : |r0| < 2 * k.segLength)

include hl hr

theorem ratio_mem_Ioo : r / (2 * k.segLength) ∈ Set.Ioo (-1) 1 := by
  have hlength : 0 < 2 * k.segLength := mul_pos two_pos hl
  rw [Set.mem_Ioo, ← abs_lt, abs_div, abs_of_pos hlength]
  exact (div_lt_one hlength).mpr hr

/-- The segments of a leg that is not extended stand apart. -/
theorem sin_halfAngle_pos : 0 < sin (k.halfAngle r) := by
  obtain ⟨hlow, hhigh⟩ := ratio_mem_Ioo hl hr
  rw [halfAngle_eq, sin_arccos]
  exact sqrt_pos.mpr (by nlinarith)

theorem restStiffness_pos (hks : 0 < k.springRate) : 0 < k.restStiffness r := by
  obtain ⟨hlow, hhigh⟩ := ratio_mem_Ioo hl hr
  have hroom : 0 < 1 - (r / (2 * k.segLength)) ^ 2 := by nlinarith
  rw [restStiffness_eq]
  exact div_pos hks (by positivity)

include hr0

/-- A longer leg has a smaller half angle. -/
theorem halfAngle_lt (h : r < r0) : k.halfAngle r0 < k.halfAngle r := by
  have hratio : r / (2 * k.segLength) < r0 / (2 * k.segLength) :=
    div_lt_div_of_pos_right h (mul_pos two_pos hl)
  rw [halfAngle_eq, halfAngle_eq]
  exact strictAntiOn_arccos (Set.Ioo_subset_Icc_self (ratio_mem_Ioo hl hr))
    (Set.Ioo_subset_Icc_self (ratio_mem_Ioo hl hr0)) hratio

/-- The springs push the leg towards its rest length. -/
theorem forceRatio_pos (hks : 0 < k.springRate) (hne : r ≠ r0) : 0 < k.forceRatio r r0 := by
  have hlever : 0 < k.segLength * sin (k.halfAngle r) := mul_pos hl (sin_halfAngle_pos hl hr)
  rw [forceRatio_eq]
  rcases hne.lt_or_gt with hshort | hlong
  · have hpush : 0 < k.springRate * (k.halfAngle r - k.halfAngle r0) :=
      mul_pos hks (sub_pos.mpr (halfAngle_lt hl hr hr0 hshort))
    exact div_pos (div_pos hpush hlever) (sub_pos.mpr hshort)
  · have hpull : k.springRate * (k.halfAngle r - k.halfAngle r0) < 0 :=
      mul_neg_of_pos_of_neg hks (sub_neg.mpr (halfAngle_lt hl hr0 hr hlong))
    exact div_pos_of_neg_of_neg (div_neg_of_neg_of_pos hpull hlever) (sub_neg.mpr hlong)

end Reach

/-! ## The limit at the rest length -/

/-- The ratio is a slope of the half angle, times what turns the angle into a force. -/
theorem forceRatio_eq_slope (k : LegKinematics ℝ) (r r0 : ℝ) :
    k.forceRatio r r0 =
      k.springRate / (k.segLength * sin (k.halfAngle r)) * -slope k.halfAngle r0 r := by
  rw [forceRatio_eq, slope_def_field, ← div_neg, neg_sub]
  ring

theorem tendsto_forceRatio (hl : 0 < k.segLength) (hr0 : |r0| < 2 * k.segLength) :
    Tendsto (fun r => k.forceRatio r r0) (𝓝[≠] r0) (𝓝 (k.restStiffness r0)) := by
  obtain ⟨hlow, hhigh⟩ := ratio_mem_Ioo hl hr0
  set n := r0 / (2 * k.segLength) with hn
  have hroom : 0 < 1 - n * n := by nlinarith
  have hroot : √(1 - n * n) ≠ 0 := (sqrt_pos.mpr hroom).ne'
  have hderiv : HasDerivAt k.halfAngle (-(1 / (2 * k.segLength * √(1 - n * n)))) r0 := by
    rw [show k.halfAngle = _ from funext k.halfAngle_eq]
    exact hasDerivAt_halfAngle (hasDerivAt_id r0) hr0
  have hslope := hasDerivAt_iff_tendsto_slope.mp hderiv
  have hsin : Tendsto (fun r => sin (k.halfAngle r)) (𝓝[≠] r0) (𝓝 (√(1 - n * n))) := by
    have hvalue : sin (k.halfAngle r0) = √(1 - n * n) := by
      rw [halfAngle_eq, sin_arccos, sq]
    rw [← hvalue]
    exact (continuous_sin.tendsto _).comp (hderiv.continuousAt.tendsto.mono_left nhdsWithin_le_nhds)
  have hlever := (tendsto_const_nhds (x := k.springRate)).div (hsin.const_mul k.segLength)
    (mul_ne_zero hl.ne' hroot)
  -- The root stands once in the lever of the springs and once in the slope of the half angle.
  have hlimit : k.springRate / (k.segLength * √(1 - n * n)) *
      - -(1 / (2 * k.segLength * √(1 - n * n))) = k.restStiffness r0 := by
    rw [neg_neg, div_mul_div_comm, mul_one, restStiffness_eq, ← hn]
    congr 1
    linear_combination 2 * k.segLength ^ 2 * mul_self_sqrt hroom.le
  rw [← hlimit]
  exact (hlever.mul hslope.neg).congr fun r => (forceRatio_eq_slope k r r0).symm

/-! ## The stiffness of a leg -/

/-- The stiffness of a leg within reach is positive, on both branches of the singular band, so the
leg is pushed towards its rest length. The ratio of force and compression tends to the stiffness
inside the band as the leg comes to rest. -/
theorem legStiffness_restores (hl : 0 < k.segLength) (hks : 0 < k.springRate)
    (hr0 : r0 ∈ Set.Ioo 0 (2 * k.segLength)) :
    (∀ r ∈ Set.Ioo 0 (2 * k.segLength), ∀ dr,
      let stiffness := (k.legStiffness r dr r0).1
      stiffness = (if |r - r0| < 1e-6 then k.restStiffness r0 else k.forceRatio r r0) ∧
        0 < stiffness ∧
        (r < r0 → 0 < stiffness * (r0 - r)) ∧ (r0 < r → stiffness * (r0 - r) < 0)) ∧
      Tendsto (fun r => k.forceRatio r r0) (𝓝[≠] r0)
        (𝓝 (k.springRate / (2 * k.segLength ^ 2 * (1 - (r0 / (2 * k.segLength)) ^ 2)))) := by
  have hreach {x : ℝ} (hx : x ∈ Set.Ioo 0 (2 * k.segLength)) : |x| < 2 * k.segLength :=
    (abs_of_pos hx.1).trans_lt hx.2
  have hlimit := tendsto_forceRatio hl (hreach hr0)
  rw [restStiffness_eq] at hlimit
  refine ⟨fun r hr dr => ?_, hlimit⟩
  intro stiffness
  have hvalue : stiffness =
      if |r - r0| < 1e-6 then k.restStiffness r0 else k.forceRatio r r0 := by
    have hband : (singularBand : ℝ) = 1e-6 := by norm_num [singularBand]
    simp only [stiffness, legStiffness, radialStiffness_eq_ite, hband, Scalar.real_abs,
      Scalar.real_sub, Scalar.real_lt]
  have hpos : 0 < stiffness := by
    rw [hvalue]
    split_ifs with hband
    · exact restStiffness_pos hl (hreach hr0) hks
    · -- Outside the band the leg is not at its rest length.
      have hne : r ≠ r0 := by
        rintro rfl
        norm_num at hband
      exact forceRatio_pos hl (hreach hr) (hreach hr0) hks hne
  exact ⟨hvalue, hpos, fun hshort => mul_pos hpos (sub_pos.mpr hshort),
    fun hlong => mul_neg_of_pos_of_neg hpos (sub_neg.mpr hlong)⟩

/-- A leg of the rig that is shorter than its rest length, and one that is within the band. -/
theorem standard_legStiffness_restores :
    let k : LegKinematics ℝ := .standard
    0 < k.segLength ∧ 0 < k.springRate ∧ (0.9 : ℝ) ∈ Set.Ioo 0 (2 * k.segLength) ∧
      (0.85 : ℝ) ∈ Set.Ioo 0 (2 * k.segLength) ∧
      0 < (k.legStiffness 0.85 1 0.9).1 * (0.9 - 0.85) ∧
      (k.legStiffness 0.9 1 0.9).1 = 320000 / 19 ∧
      Tendsto (fun r => k.forceRatio r 0.9) (𝓝[≠] 0.9) (𝓝 (320000 / 19)) := by
  intro k
  have hl : k.segLength = 1 / 2 := by norm_num [k, standard]
  have hks : k.springRate = 1600 := by norm_num [k, standard]
  have hrest : (0.9 : ℝ) ∈ Set.Ioo 0 (2 * k.segLength) := by norm_num [hl]
  have hshort : (0.85 : ℝ) ∈ Set.Ioo 0 (2 * k.segLength) := by norm_num [hl]
  have hlength : 0 < k.segLength := by norm_num [hl]
  have hrate : 0 < k.springRate := by norm_num [hks]
  have hlimit : k.springRate / (2 * k.segLength ^ 2 * (1 - (0.9 / (2 * k.segLength)) ^ 2)) =
      320000 / 19 := by norm_num [hl, hks]
  obtain ⟨hstiffness, htends⟩ := legStiffness_restores hlength hrate hrest
  obtain ⟨-, -, hpush, -⟩ := hstiffness 0.85 hshort 1
  obtain ⟨hvalue, -⟩ := hstiffness 0.9 hrest 1
  refine ⟨hlength, hrate, hrest, hshort, hpush (by norm_num), ?_, hlimit ▸ htends⟩
  rw [hvalue, if_pos (by norm_num), restStiffness_eq, hlimit]

end BoomWalker.LegKinematics
