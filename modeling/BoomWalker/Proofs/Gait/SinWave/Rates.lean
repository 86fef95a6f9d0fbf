/-
How fast the targets of the sine wave move.

Main statement: over exact arithmetic, the velocities at which the motors of a leg are tracked are the
time derivatives of the positions at which they are tracked, at every time at which the commanded
length is shorter than the extended leg (`motorTargets_move`). At other times the wave may be out of
reach. The velocity of a wave is the derivative of its position (`Wave.hasDerivAt_eval`), and this is
kept by the conversion to the segments.
-/
import BoomWalker.Gait.SinWave
import BoomWalker.Proofs.Motion.LegRates

namespace BoomWalker.SinWave

open Real

theorem Wave.eval_eq (w : Wave ℝ) (t : ℝ) :
    w.eval t =
      (w.offset + w.amplitude * sin (2 * π * w.frequency * t),
        w.amplitude * (2 * π * w.frequency) * cos (2 * π * w.frequency * t)) := rfl

theorem Wave.hasDerivAt_eval (w : Wave ℝ) (t : ℝ) :
    HasDerivAt (fun τ => (w.eval τ).1) (w.eval t).2 t := by
  have hphase : HasDerivAt (fun τ => 2 * π * w.frequency * τ) (2 * π * w.frequency) t :=
    hasDerivAt_const_mul (2 * π * w.frequency)
  have hsine := (hphase.sin.const_mul w.amplitude).const_add w.offset
  refine hsine.congr_deriv ?_
  rw [Wave.eval_eq]
  ring

/-- The targets of motors A and B move at the velocities that go with them, and a cycle at that time
tracks them on both legs. -/
theorem motorTargets_move {kine : LegKinematics ℝ} {angle length : Wave ℝ} {t : ℝ}
    (hreach : |(length.eval t).1| < 2 * kine.segLength) :
    let targets := motorTargets kine angle length
    HasDerivAt (fun τ => ((targets τ).posA, (targets τ).posB))
        ((targets t).velA, (targets t).velB) t ∧
      ∀ p period snap i s side, p.leg = kine → angleWave p i = angle → lengthWave p i = length →
        s.elapsed = t →
        (evaluate p period snap i s).2.legs.get side =
          trackLeg p i (targets t) (snap.legs.get side) := by
  intro targets
  constructor
  · exact LegKinematics.hasDerivAt_legPosToMotorPos (angle.hasDerivAt_eval t)
      (length.hasDerivAt_eval t) hreach
  · rintro p period snap i s side rfl rfl rfl rfl
    exact Sided.get_map _ snap.legs side

/-- A leg that is folded at its hip at the time one, by a wave that is out of reach half a second
before and after. -/
theorem standard_motorTargets_move :
    let kine : LegKinematics ℝ := .standard
    let angle : Wave ℝ := ⟨0.1, 0.5, π / 2⟩
    let length : Wave ℝ := ⟨1.5, 0.5, 0⟩
    let targets := motorTargets kine angle length
    |(length.eval 1).1| < 2 * kine.segLength ∧
      HasDerivAt (fun τ => ((targets τ).posA, (targets τ).posB)) (-(1.6 * π), 1.4 * π) 1 := by
  intro kine angle length targets
  have hl : kine.segLength = 1 / 2 := by norm_num [kine, LegKinematics.standard]
  have hphase : 2 * π * 0.5 * 1 = π := by ring
  have hangle : angle.eval 1 = (π / 2, -(0.1 * π)) := by
    rw [Wave.eval_eq, hphase, sin_pi, cos_pi]
    apply Prod.ext
    · ring
    · ring
  have hlength : length.eval 1 = (0, -(1.5 * π)) := by
    rw [Wave.eval_eq, hphase, sin_pi, cos_pi]
    apply Prod.ext
    · ring
    · ring
  have hreach : |(length.eval 1).1| < 2 * kine.segLength := by
    rw [hlength, hl]
    norm_num
  refine ⟨hreach, (motorTargets_move hreach).1.congr_deriv ?_⟩
  calc
    _ = kine.legVelToMotorVel (length.eval 1).1 (angle.eval 1).2 (length.eval 1).2 := rfl
    _ = (-(0.1 * π) + -(1.5 * π), -(0.1 * π) - -(1.5 * π)) := by
      simp [hangle, hlength, LegKinematics.legVelToMotorVel, hl]
    _ = (-(1.6 * π), 1.4 * π) := by
      apply Prod.ext
      · ring
      · ring

end BoomWalker.SinWave
