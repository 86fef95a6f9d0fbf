/-
Force tracking over exact arithmetic.

Main statement: measuring a force and asking for it are inverse to each other in every pose in which
the segments are not parallel. The currents for the force that was measured are those of the spring
torques alone, whatever the gains. A force leaves the gains nothing to correct exactly if it is the
one that is measured, and with the springs deflected for a force it is that force which is measured
(`control_compute`).

Both sides are compared by the torques of the springs: those that a force requires (`required`), by
the transposed Jacobian, and those that the deflections show (`measured`). The closed form is the
inverse of the transposed Jacobian on both sides (`transpose_apply_inverse`,
`inverse_apply_transpose`), so a force is measured exactly if it requires the torques that are there
(`compute_eq_iff`). That is also when the gains have no effect (`settled_iff`).
-/
import BoomWalker.Motion.LegForce
import BoomWalker.Proofs.Scalar.Real
import Mathlib.Analysis.Real.Pi.Bounds

namespace BoomWalker

open Real

/-- Torques of the springs of motors A and B, and their rates. -/
@[ext] structure SpringTorque (α : Type) where
  tau : α × α
  dtau : α × α

namespace LegForce

section Torques

variable {α : Type} [Scalar α]

/-- The torques that bring a force about. -/
def required (f : LegForce α) (force : ToeForce α) (leg : LegState α) : SpringTorque α :=
  let jt := (f.jacobian leg).transpose
  ⟨jt.apply (force.fx, -force.fz), jt.apply (force.dfx, -force.dfz)⟩

/-- The torques that the deflections show. -/
def measured (f : LegForce α) (leg : LegState α) : SpringTorque α :=
  let ks := f.kine.springRate
  ⟨(ks * (leg.a.motorAngle - leg.a.legAngle), ks * (leg.b.motorAngle - leg.b.legAngle)),
    (ks * (leg.a.motorVelocity - leg.a.legVelocity),
      ks * (leg.b.motorVelocity - leg.b.legVelocity))⟩

/-- The leg with its springs deflected for a force, and its segments where they are. -/
def load (f : LegForce α) (force : ToeForce α) (leg : LegState α) : LegState α :=
  let ks := f.kine.springRate
  let torque := f.required force leg
  { leg with
    a := { leg.a with
      motorAngle := leg.a.legAngle + torque.tau.1 / ks
      motorVelocity := leg.a.legVelocity + torque.dtau.1 / ks }
    b := { leg.b with
      motorAngle := leg.b.legAngle + torque.tau.2 / ks
      motorVelocity := leg.b.legVelocity + torque.dtau.2 / ks } }

/-- The tracker with other gains. -/
def withGains (f : LegForce α) (kp kd : α) : LegForce α := { f with kp, kd }

/-- The currents for a force are the same whatever the gains: there is no error to correct. -/
def Settled (f : LegForce α) (force : ToeForce α) (leg : LegState α) : Prop :=
  ∀ kp kd kp' kd', (f.withGains kp kd).control force leg = (f.withGains kp' kd').control force leg

theorem control_eq (f : LegForce α) (force : ToeForce α) (leg : LegState α) :
    f.control force leg =
      (f.current (f.required force leg).tau.1 (f.required force leg).dtau.1 leg.a,
        f.current (f.required force leg).tau.2 (f.required force leg).dtau.2 leg.b) := rfl

theorem compute_eq (f : LegForce α) (leg : LegState α) :
    f.compute leg =
      let inv := f.jacobianTransposeInverse leg
      let force := inv.apply (f.measured leg).tau
      let rate := inv.apply (f.measured leg).dtau
      ⟨force.1, rate.1, -force.2, -rate.2⟩ := rfl

/-- What a force requires depends on the segments alone. -/
theorem required_load (f : LegForce α) (force other : ToeForce α) (leg : LegState α) :
    f.required other (f.load force leg) = f.required other leg := rfl

end Torques

variable {f : LegForce ℝ} {force : ToeForce ℝ} {leg : LegState ℝ}

/-! ## The Jacobian -/

/-- The torque of a spring is that of the force about the hip, at the end of its segment. -/
theorem transpose_apply (v : ℝ × ℝ) :
    (f.jacobian leg).transpose.apply v =
      (f.kine.segLength * (cos leg.a.legAngle * v.2 - sin leg.a.legAngle * v.1),
        f.kine.segLength * (cos leg.b.legAngle * v.2 - sin leg.b.legAngle * v.1)) := by
  simp only [Mat2.apply, Mat2.transpose, jacobian, Scalar.real_add, Scalar.real_mul,
    Scalar.real_neg, Scalar.real_sin, Scalar.real_cos]
  apply Prod.ext
  · ring
  · ring

section Inverse

variable (hl : f.kine.segLength ≠ 0)

include hl

theorem inverse_apply (v : ℝ × ℝ) :
    (f.jacobianTransposeInverse leg).apply v =
      ((cos leg.b.legAngle * v.1 - cos leg.a.legAngle * v.2) /
          (f.kine.segLength * sin (leg.b.legAngle - leg.a.legAngle)),
        (sin leg.b.legAngle * v.1 - sin leg.a.legAngle * v.2) /
          (f.kine.segLength * sin (leg.b.legAngle - leg.a.legAngle))) := by
  simp only [Mat2.apply, Mat2.divBy, jacobianTransposeInverse, Scalar.real_add, Scalar.real_sub,
    Scalar.real_mul, Scalar.real_div, Scalar.real_neg, Scalar.real_sin, Scalar.real_cos]
  apply Prod.ext
  · field_simp
    ring
  · field_simp
    ring

variable (hsin : sin (leg.b.legAngle - leg.a.legAngle) ≠ 0)

include hsin

theorem transpose_apply_inverse (v : ℝ × ℝ) :
    (f.jacobian leg).transpose.apply ((f.jacobianTransposeInverse leg).apply v) = v := by
  rw [transpose_apply, inverse_apply hl]
  apply Prod.ext
  · field_simp
    rw [sin_sub]
    ring
  · field_simp
    rw [sin_sub]
    ring

theorem inverse_apply_transpose (v : ℝ × ℝ) :
    (f.jacobianTransposeInverse leg).apply ((f.jacobian leg).transpose.apply v) = v := by
  rw [transpose_apply, inverse_apply hl]
  apply Prod.ext
  · field_simp
    rw [sin_sub]
    ring
  · field_simp
    rw [sin_sub]
    ring

/-- A force is measured if it requires the torques that the deflections show. -/
theorem compute_eq_iff : f.compute leg = force ↔ f.required force leg = f.measured leg := by
  rw [compute_eq]
  constructor
  · rintro rfl
    apply SpringTorque.ext
    · simp only [required, neg_neg]
      exact transpose_apply_inverse hl hsin _
    · simp only [required, neg_neg]
      exact transpose_apply_inverse hl hsin _
  · intro h
    rw [← h]
    simp only [required, inverse_apply_transpose hl hsin, neg_neg]

end Inverse

/-! ## The gains -/

theorem current_eq (tau dtau : ℝ) (half : HalfState ℝ) :
    f.current tau dtau half =
      tau / (f.drive.gearRatio * f.drive.torqueConstant) +
        f.kp * (tau / f.kine.springRate - (half.motorAngle - half.legAngle)) +
        f.kd * (dtau / f.kine.springRate - (half.motorVelocity - half.legVelocity)) := by
  simp only [current, Scalar.real_add, Scalar.real_sub, Scalar.real_mul, Scalar.real_div,
    Scalar.real_one]
  rw [mul_one_div]

section Gains

variable (hks : f.kine.springRate ≠ 0)

include hks

/-- A motor whose spring has the torque that it should have, and its rate, is fed that torque. -/
theorem current_of_measured (half : HalfState ℝ) :
    f.current (f.kine.springRate * (half.motorAngle - half.legAngle))
        (f.kine.springRate * (half.motorVelocity - half.legVelocity)) half =
      f.kine.springRate * (half.motorAngle - half.legAngle) /
        (f.drive.gearRatio * f.drive.torqueConstant) := by
  rw [current_eq, mul_div_cancel_left₀ _ hks, mul_div_cancel_left₀ _ hks]
  ring

/-- A motor on which no gain has an effect has a spring with the torque that it should have. -/
theorem measured_of_current (tau dtau : ℝ) (half : HalfState ℝ)
    (h : ∀ kp kd kp' kd', (f.withGains kp kd).current tau dtau half =
      (f.withGains kp' kd').current tau dtau half) :
    tau = f.kine.springRate * (half.motorAngle - half.legAngle) ∧
      dtau = f.kine.springRate * (half.motorVelocity - half.legVelocity) := by
  -- A single gain of one shows one error, against no gain at all.
  have hangle := h 1 0 0 0
  have hrate := h 0 1 0 0
  simp only [current_eq, withGains] at hangle hrate
  have htau : tau / f.kine.springRate = half.motorAngle - half.legAngle := by linarith
  have hdtau : dtau / f.kine.springRate = half.motorVelocity - half.legVelocity := by linarith
  rw [← htau, ← hdtau, mul_div_cancel₀ _ hks, mul_div_cancel₀ _ hks]
  exact ⟨rfl, rfl⟩

/-- The currents of a force that requires the torques that are there. -/
theorem control_of_required (h : f.required force leg = f.measured leg) :
    let ks := f.kine.springRate
    let perAmp := f.drive.gearRatio * f.drive.torqueConstant
    f.control force leg =
      (ks * (leg.a.motorAngle - leg.a.legAngle) / perAmp,
        ks * (leg.b.motorAngle - leg.b.legAngle) / perAmp) := by
  rw [control_eq, h]
  exact Prod.ext (current_of_measured hks leg.a) (current_of_measured hks leg.b)

/-- The gains have no effect exactly on a force that requires the torques that are there. -/
theorem settled_iff : f.Settled force leg ↔ f.required force leg = f.measured leg := by
  constructor
  · intro h
    -- Each motor has a torque and a rate of its own, so each is settled for itself.
    obtain ⟨hatau, hadtau⟩ := measured_of_current hks (f.required force leg).tau.1
      (f.required force leg).dtau.1 leg.a fun kp kd kp' kd' => congrArg Prod.fst (h kp kd kp' kd')
    obtain ⟨hbtau, hbdtau⟩ := measured_of_current hks (f.required force leg).tau.2
      (f.required force leg).dtau.2 leg.b fun kp kd kp' kd' => congrArg Prod.snd (h kp kd kp' kd')
    exact SpringTorque.ext (Prod.ext hatau hbtau) (Prod.ext hadtau hbdtau)
  · intro h kp kd kp' kd'
    have hgains (kp kd : ℝ) : (f.withGains kp kd).control force leg = _ :=
      control_of_required (f := f.withGains kp kd) hks h
    rw [hgains, hgains]
    rfl

/-- Springs that are deflected for a force show the torques that it requires. -/
theorem measured_load : f.measured (f.load force leg) = f.required force leg := by
  simp only [measured, load, Scalar.real_add, Scalar.real_div, add_sub_cancel_left,
    mul_div_cancel₀ _ hks]

/-- Control and measurement are inverse. The measured force is tracked by the spring torques alone.
Of all forces it is the one on which the gains have no effect, and any force is measured once the
springs are deflected for it. -/
theorem control_compute (hl : f.kine.segLength ≠ 0)
    (hsin : sin (leg.b.legAngle - leg.a.legAngle) ≠ 0) :
    let ks := f.kine.springRate
    let perAmp := f.drive.gearRatio * f.drive.torqueConstant
    f.control (f.compute leg) leg =
      (ks * (leg.a.motorAngle - leg.a.legAngle) / perAmp,
        ks * (leg.b.motorAngle - leg.b.legAngle) / perAmp) ∧
    ∀ force, (f.Settled force leg ↔ f.compute leg = force) ∧
      f.Settled force (f.load force leg) ∧ f.compute (f.load force leg) = force := by
  intro ks perAmp
  have hmeasured : f.required (f.compute leg) leg = f.measured leg :=
    (compute_eq_iff hl hsin).mp rfl
  refine ⟨control_of_required hks hmeasured, fun force => ?_⟩
  have hload : f.required force (f.load force leg) = f.measured (f.load force leg) := by
    rw [measured_load hks, required_load]
  refine ⟨?_, (settled_iff hks).mpr hload, ?_⟩
  · rw [settled_iff hks, compute_eq_iff hl hsin]
  · -- The springs are deflected by their motors, so the segments are no more parallel than before.
    have hsin' : sin ((f.load force leg).b.legAngle - (f.load force leg).a.legAngle) ≠ 0 := hsin
    exact (compute_eq_iff hl hsin').mpr hload

end Gains

/-- A leg with one spring compressed and the other extended. -/
noncomputable def twisted : LegState ℝ := ⟨⟨1.12, 0.1, 1.1, 0⟩, ⟨2.185, 0, 2.2, 0.2⟩, ⟨0, 0⟩⟩

theorem twisted_control_compute :
    let f : LegForce ℝ := ⟨.standard, .standard, 10, 1⟩
    f.kine.springRate ≠ 0 ∧ f.kine.segLength ≠ 0 ∧
      sin (twisted.b.legAngle - twisted.a.legAngle) ≠ 0 ∧
      f.control (f.compute twisted) twisted =
        (f.kine.springRate * (1.12 - 1.1) / (f.drive.gearRatio * f.drive.torqueConstant),
          f.kine.springRate * (2.185 - 2.2) / (f.drive.gearRatio * f.drive.torqueConstant)) ∧
      f.compute (f.load ⟨30, 0, -400, 5⟩ twisted) = ⟨30, 0, -400, 5⟩ := by
  intro f
  have hks : f.kine.springRate ≠ 0 := by norm_num [f, LegKinematics.standard]
  have hl : f.kine.segLength ≠ 0 := by norm_num [f, LegKinematics.standard]
  have hsin : sin (twisted.b.legAngle - twisted.a.legAngle) ≠ 0 := by
    have hspread : twisted.b.legAngle - twisted.a.legAngle = 1.1 := by norm_num [twisted]
    rw [hspread]
    exact (sin_pos_of_pos_of_lt_pi (by norm_num) (by linarith [pi_gt_three])).ne'
  obtain ⟨hcontrol, hforces⟩ := control_compute hks hl hsin
  exact ⟨hks, hl, hsin, hcontrol, (hforces ⟨30, 0, -400, 5⟩).2.2⟩

end LegForce

end BoomWalker
