/-
The spring law of stance for a leg that stands still.

Main statement: over exact arithmetic, the force that stance asks of a leg at rest is the one that its
springs exert, if the rest length is the length of the leg before the springs. So there is no error
to correct, and the currents are those of the spring torques alone (`stanceForce_still`). A
transition sets the rest length to just this length, and does not jerk a leg that stands still.

The virtual spring pushes along the leg (`stanceForce_eq_radial`), and such a force requires torques
that oppose each other (`required_radial`). The stiffness is made so that they are the torques of
the deflections, which oppose each other in a leg at rest (`measured_still`).
-/
import BoomWalker.Gait.SlipWalk.Cycle
import BoomWalker.Proofs.Motion.LegForce
import BoomWalker.Proofs.Motion.LegKinematics

namespace BoomWalker

open Real

/-! ## A leg at rest -/

/-- A leg that stands still at the angle `q`, with its segments at `half` on either side and its motors
at `halfMotor`. -/
noncomputable def LegState.still (q half halfMotor : ℝ) (hip : HipState ℝ) : LegState ℝ :=
  ⟨⟨q - halfMotor, 0, q - half, 0⟩, ⟨q + halfMotor, 0, q + half, 0⟩, hip⟩

/-- A force along a leg of angle `q`, which does not change. -/
noncomputable def ToeForce.radial (push q : ℝ) : ToeForce ℝ :=
  ⟨push * cos q, 0, -(push * sin q), 0⟩

namespace LegForce

variable (f : LegForce ℝ) (q half halfMotor : ℝ) (hip : HipState ℝ)

/-- A force along the leg requires torques that oppose each other. -/
theorem required_radial (push : ℝ) :
    f.required (.radial push q) (.still q half halfMotor hip) =
      ⟨(f.kine.segLength * (push * sin half), -(f.kine.segLength * (push * sin half))),
        (0, 0)⟩ := by
  have ha : sin half = sin q * cos (q - half) - cos q * sin (q - half) := by
    rw [← sin_sub, sub_sub_cancel]
  have hb : -sin half = sin q * cos (q + half) - cos q * sin (q + half) := by
    rw [← sin_sub, sub_add_cancel_left, sin_neg]
  simp only [required, transpose_apply, LegState.still, ToeForce.radial]
  apply SpringTorque.ext
  · apply Prod.ext
    · linear_combination -(f.kine.segLength * push) * ha
    · linear_combination -(f.kine.segLength * push) * hb
  · apply Prod.ext
    · ring
    · ring

/-- The deflections of a leg at rest show torques that oppose each other. -/
theorem measured_still :
    f.measured (.still q half halfMotor hip) =
      ⟨(f.kine.springRate * (half - halfMotor), -(f.kine.springRate * (half - halfMotor))),
        (0, 0)⟩ := by
  simp only [measured, LegState.still, Scalar.real_sub, Scalar.real_mul]
  apply SpringTorque.ext
  · apply Prod.ext
    · ring
    · ring
  · apply Prod.ext
    · ring
    · ring

end LegForce

namespace SlipWalk

variable {k : LegKinematics ℝ} {q half halfMotor : ℝ} {hip : HipState ℝ}

theorem legSidePolar_still :
    k.legSidePolar (.still q half halfMotor hip) = ⟨q, 2 * k.segLength * cos half, 0, 0⟩ :=
  LegKinematics.polar_still q half

theorem motorSidePolar_still :
    k.motorSidePolar (.still q half halfMotor hip) =
      ⟨q, 2 * k.segLength * cos halfMotor, 0, 0⟩ :=
  LegKinematics.polar_still q halfMotor

/-! ## The spring law -/

/-- The virtual spring of a leg at rest pushes along the leg, with a force that does not change. -/
theorem springForce_still (stiffness r0 q r : ℝ) :
    springForce stiffness 0 r0 ⟨q, r, 0, 0⟩ = .radial (stiffness * (r0 - r)) q := by
  simp only [springForce, ToeForce.radial, Scalar.real_add, Scalar.real_sub, Scalar.real_mul,
    Scalar.real_neg, Scalar.real_sin, Scalar.real_cos]
  congr 1
  · ring
  · ring
  · ring
  · ring

section Apart

variable (hl : 0 < k.segLength) (hhalf : half ∈ Set.Ioo 0 (π / 2))
  (hmotor : halfMotor ∈ Set.Ioo 0 (π / 2))
  (hapart : 1e-6 ≤ |2 * k.segLength * cos half - 2 * k.segLength * cos halfMotor|)

include hl hhalf hmotor hapart

/-- The push that stance asks of a leg at rest, with the length before the springs as the rest
length. -/
theorem stanceForce_eq_radial :
    stanceForce k (2 * k.segLength * cos halfMotor) (.still q half halfMotor hip) =
      .radial (k.springRate * (half - halfMotor) / (k.segLength * sin half)) q := by
  have hpi {x : ℝ} (hx : x ∈ Set.Ioo 0 (π / 2)) : x ∈ Set.Icc 0 π :=
    ⟨hx.1.le, by linarith [hx.2, pi_pos]⟩
  have hpush := LegKinematics.radialStiffness_mul hl (hpi hhalf) (hpi hmotor) hapart
  rw [stanceForce, legSidePolar_still, Scalar.real_zero]
  rw [springForce_still]
  exact congrArg (ToeForce.radial · q) hpush

/-- The force that stance asks of a leg at rest requires the torques that are there. -/
theorem required_stanceForce {f : LegForce ℝ} (hf : f.kine = k) :
    f.required (stanceForce k (2 * k.segLength * cos halfMotor) (.still q half halfMotor hip))
        (.still q half halfMotor hip) =
      f.measured (.still q half halfMotor hip) := by
  have hsin : sin half ≠ 0 := by
    have hpos : 0 < sin half :=
      sin_pos_of_pos_of_lt_pi hhalf.1 (by linarith [hhalf.2, pi_pos])
    exact hpos.ne'
  have htorque : k.segLength * (k.springRate * (half - halfMotor) / (k.segLength * sin half) *
      sin half) = k.springRate * (half - halfMotor) := by
    have hl' : k.segLength ≠ 0 := hl.ne'
    field_simp
  rw [stanceForce_eq_radial hl hhalf hmotor hapart, LegForce.required_radial,
    LegForce.measured_still, hf, htorque]

end Apart

/-- A transition sets the rest length of a leg to its length before the springs. -/
theorem captureExit_restLength (s : State ℝ) (k : LegKinematics ℝ) (snap : Snapshot ℝ)
    (stance side : Side) :
    ((s.captureExit k snap stance).limiters.get side).restLength.value =
      (k.motorSidePolar (snap.legs.get side)).r := by
  unfold State.captureExit
  rw [Sided.get_ofFn]

/-- A leg that stands still is left as it is by the spring law, at the rest length that a transition
gives it. The force that is asked of it is the one that its springs show, no gain has an effect,
and the currents are those of the spring torques. -/
theorem stanceForce_still {p : Params ℝ} {i : Input ℝ} (hl : 0 < p.leg.segLength)
    (hks : 0 < i.robotSpring) (q : ℝ) {half halfMotor : ℝ} (hip : HipState ℝ)
    (hhalf : half ∈ Set.Ioo 0 (π / 2)) (hmotor : halfMotor ∈ Set.Ioo 0 (π / 2))
    (hapart : 1e-6 ≤ |2 * p.leg.segLength * cos half - 2 * p.leg.segLength * cos halfMotor|) :
    let k := kinematics p i
    let f := forceTracker p i
    let leg := LegState.still q half halfMotor hip
    let r0 := 2 * p.leg.segLength * cos halfMotor
    let force := stanceForce k r0 leg
    let perAmp := p.drive.gearRatio * p.drive.torqueConstant
    let currents := (i.robotSpring * (leg.a.motorAngle - leg.a.legAngle) / perAmp,
      i.robotSpring * (leg.b.motorAngle - leg.b.legAngle) / perAmp)
    k.legSidePolar leg = ⟨q, 2 * p.leg.segLength * cos half, 0, 0⟩ ∧
    force = f.compute leg ∧ f.Settled force leg ∧ f.control force leg = currents ∧
    (∀ (s : State ℝ) snap stance side, snap.legs.get side = leg →
      ((s.captureExit k snap stance).limiters.get side).restLength.value = r0) ∧
    ∀ period lim,
      (lim.restLength.apply i.slipLeg (RateLimiter.maxDelta p.springRateLimit period)).value = r0 →
      let drive := stanceLeg p i period lim leg
      (drive.a, drive.b) = currents := by
  intro k f leg r0 force perAmp currents
  have hsin : sin (leg.b.legAngle - leg.a.legAngle) ≠ 0 := by
    have hspread : leg.b.legAngle - leg.a.legAngle = 2 * half := by
      simp only [leg, LegState.still]
      ring
    rw [hspread]
    exact (sin_pos_of_pos_of_lt_pi (by linarith [hhalf.1]) (by linarith [hhalf.2])).ne'
  have hrequired : f.required force leg = f.measured leg :=
    required_stanceForce (k := k) hl hhalf hmotor hapart rfl
  have hcontrol : f.control force leg = currents := LegForce.control_of_required hks.ne' hrequired
  refine ⟨legSidePolar_still, ?_, ?_, hcontrol, fun s snap stance side hleg => ?_,
    fun period lim hlim => ?_⟩
  · exact ((LegForce.compute_eq_iff hl.ne' hsin).mpr hrequired).symm
  · exact (LegForce.settled_iff hks.ne').mpr hrequired
  · rw [captureExit_restLength, hleg, motorSidePolar_still]
    rfl
  · have hstance : stanceForce k (lim.restLength.apply i.slipLeg
        (RateLimiter.maxDelta p.springRateLimit period)).value leg = force := by
      rw [hlim]
    rw [← hcontrol, ← hstance]
    rfl

/-- A leg that is compressed from an opening of 30 degrees to one of 60. -/
theorem standard_stanceForce_still :
    let p : Params ℝ := .standard
    let i : Input ℝ := .standard
    let leg := LegState.still (π / 2) (π / 3) (π / 6) ⟨0, 0⟩
    let r0 := 2 * p.leg.segLength * cos (π / 6)
    0 < p.leg.segLength ∧ 0 < i.robotSpring ∧
      π / 3 ∈ Set.Ioo 0 (π / 2) ∧ π / 6 ∈ Set.Ioo 0 (π / 2) ∧
      1e-6 ≤ |2 * p.leg.segLength * cos (π / 3) - r0| ∧
      stanceForce (kinematics p i) r0 leg = (forceTracker p i).compute leg := by
  intro p i leg r0
  have hlength : p.leg.segLength = 1 / 2 := by
    norm_num [p, Params.standard, LegKinematics.standard]
  have hl : 0 < p.leg.segLength := by norm_num [hlength]
  have hks : 0 < i.robotSpring := by norm_num [i, Input.standard]
  have hhalf : π / 3 ∈ Set.Ioo 0 (π / 2) := ⟨by positivity, by linarith [pi_pos]⟩
  have hmotor : π / 6 ∈ Set.Ioo 0 (π / 2) := ⟨by positivity, by linarith [pi_pos]⟩
  have hapart : 1e-6 ≤ |2 * p.leg.segLength * cos (π / 3) - r0| := by
    have hroot : (1.5 : ℝ) ≤ √3 := le_sqrt_of_sq_le (by norm_num)
    rw [abs_sub_comm, le_abs, cos_pi_div_three]
    left
    simp only [r0, hlength, cos_pi_div_six]
    linarith
  exact ⟨hl, hks, hhalf, hmotor, hapart,
    (stanceForce_still hl hks (π / 2) ⟨0, 0⟩ hhalf hmotor hapart).2.1⟩

end SlipWalk

end BoomWalker
