/-
What force a hopping leg produces when its springs are deflected to the targets of stance.

Main statement: over exact arithmetic, the force that the deflections show is not the one that was
asked for. The part along the leg is multiplied by the cotangent of half the angle between the
segments, and the part across the leg by its tangent, and turned round. So a force is realised
exactly if neither of its parts is changed, and no leg realises every force (`compute_deflected`).
A crouched leg that is asked for an upward force shows one that also points sideways
(`not_always_realised`).

Forces are taken apart into these two parts throughout. A force along the leg is shown by torques of
the springs that oppose each other, and a force across it by torques that go together
(`LegForce.compute_deflect`). The targets make opposing torques of the part along the leg too, and
torques that go together of the part across it, but in other amounts
(`torque_deflectionTargets`).
-/
import BoomWalker.Gait.LegHop
import BoomWalker.Proofs.Scalar.Real
import Mathlib.Analysis.Complex.Trigonometric
import Mathlib.Analysis.Real.Pi.Bounds

namespace BoomWalker

open Real

/-! ## The pose of a leg -/

namespace LegState

/-- The leg with its motors elsewhere, and its segments where they are. -/
def deflect {α : Type} (leg : LegState α) (motors : α × α) : LegState α :=
  { leg with
    a := { leg.a with motorAngle := motors.1 }
    b := { leg.b with motorAngle := motors.2 } }

/-- The direction of the leg, from the hip to the toe. -/
def direction {α : Type} [Scalar α] (leg : LegState α) : α :=
  (leg.a.legAngle + leg.b.legAngle) / 2

/-- Half the angle between the segments. -/
def halfSpread {α : Type} [Scalar α] (leg : LegState α) : α :=
  (leg.b.legAngle - leg.a.legAngle) / 2

/-- The part of a force along the leg. -/
noncomputable def along (leg : LegState ℝ) (force : ℝ × ℝ) : ℝ :=
  force.1 * cos leg.direction + force.2 * sin leg.direction

/-- The part of a force across the leg. -/
noncomputable def across (leg : LegState ℝ) (force : ℝ × ℝ) : ℝ :=
  force.2 * cos leg.direction - force.1 * sin leg.direction

variable (leg : LegState ℝ)

theorem legAngle_a : leg.a.legAngle = leg.direction - leg.halfSpread := by
  simp only [direction, halfSpread, Scalar.real_add, Scalar.real_sub, Scalar.real_div,
    Scalar.real_numeral]
  ring

theorem legAngle_b : leg.b.legAngle = leg.direction + leg.halfSpread := by
  simp only [direction, halfSpread, Scalar.real_add, Scalar.real_sub, Scalar.real_div,
    Scalar.real_numeral]
  ring

theorem sin_spread :
    sin (leg.b.legAngle - leg.a.legAngle) = 2 * sin leg.halfSpread * cos leg.halfSpread := by
  have hspread : leg.b.legAngle - leg.a.legAngle = 2 * leg.halfSpread := by
    rw [leg.legAngle_a, leg.legAngle_b]
    ring
  rw [hspread, sin_two_mul]

/-- A force is known by its two parts. -/
theorem along_across_inj {x y : ℝ × ℝ} :
    leg.along x = leg.along y ∧ leg.across x = leg.across y ↔ x = y := by
  have hunit := sin_sq_add_cos_sq leg.direction
  unfold along across
  constructor
  · rintro ⟨halong, hacross⟩
    apply Prod.ext
    · linear_combination cos leg.direction * halong - sin leg.direction * hacross -
        (x.1 - y.1) * hunit
    · linear_combination sin leg.direction * halong + cos leg.direction * hacross -
        (x.2 - y.2) * hunit
  · rintro rfl
    exact ⟨rfl, rfl⟩

end LegState

/-! ## Torques and the force that they show -/

/-- What a toe force that was shown does to the body: the vertical force is positive if it pushes
the body up. -/
noncomputable def ToeForce.onBody (f : ToeForce ℝ) : ℝ × ℝ := (f.fx, -f.fz)

/-- Torques that oppose each other show a force along the leg, and torques that go together one
across it. -/
theorem LegForce.compute_deflect {f : LegForce ℝ} {leg : LegState ℝ} (motors : ℝ × ℝ)
    (hlength : f.kine.segLength ≠ 0) (hsin : sin (leg.b.legAngle - leg.a.legAngle) ≠ 0) :
    let torqueA := f.kine.springRate * (motors.1 - leg.a.legAngle)
    let torqueB := f.kine.springRate * (motors.2 - leg.b.legAngle)
    let shown := (f.compute (leg.deflect motors)).onBody
    leg.along shown = (torqueA - torqueB) / (2 * f.kine.segLength * sin leg.halfSpread) ∧
      leg.across shown = (torqueA + torqueB) / (2 * f.kine.segLength * cos leg.halfSpread) := by
  intro torqueA torqueB shown
  have hshown : shown =
      let l := f.kine.segLength
      let a := leg.a.legAngle
      let b := leg.b.legAngle
      (l * cos b / (l * l * sin (b - a)) * torqueA + -l * cos a / (l * l * sin (b - a)) * torqueB,
        - -(l * sin b / (l * l * sin (b - a)) * torqueA +
          -l * sin a / (l * l * sin (b - a)) * torqueB)) := rfl
  rw [leg.sin_spread] at hsin
  have hs : sin leg.halfSpread ≠ 0 := fun h => hsin (by rw [h]; ring)
  have hc : cos leg.halfSpread ≠ 0 := fun h => hsin (by rw [h]; ring)
  have hunit := sin_sq_add_cos_sq leg.direction
  rw [hshown]
  simp only [LegState.along, LegState.across]
  rw [leg.sin_spread, leg.legAngle_a, leg.legAngle_b, sin_sub, cos_sub, sin_add, cos_add]
  constructor
  · field_simp
    linear_combination cos leg.halfSpread * (torqueA - torqueB) * hunit
  · field_simp
    linear_combination sin leg.halfSpread * (torqueA + torqueB) * hunit

namespace LegHop

/-- The spring torques at the targets for a force, by the parts of the force. -/
theorem torque_deflectionTargets {p : Params ℝ} {i : Input ℝ} {leg : LegState ℝ}
    (ha : leg.a.motorAngle = leg.a.legAngle) (hb : leg.b.motorAngle = leg.b.legAngle)
    (hspring : i.robotSpring = p.leg.springRate) (hrate : p.leg.springRate ≠ 0)
    (force : ℝ × ℝ) :
    let targets := deflectionTargets p i leg force
    let x := cos leg.halfSpread * leg.along force
    let y := sin leg.halfSpread * leg.across force
    p.leg.springRate * (targets.1 - leg.a.legAngle) = p.leg.segLength * (x - y) ∧
      p.leg.springRate * (targets.2 - leg.b.legAngle) = -p.leg.segLength * (x + y) := by
  intro targets x y
  have htargets : targets =
      (leg.a.legAngle + (p.leg.segLength * sin leg.a.legAngle * force.2 +
          p.leg.segLength * cos leg.a.legAngle * force.1) / p.leg.springRate,
        leg.b.legAngle + (-p.leg.segLength * sin leg.b.legAngle * force.2 +
          -p.leg.segLength * cos leg.b.legAngle * force.1) / p.leg.springRate) := by
    simp only [targets, deflectionTargets, ha, hb, hspring]
    rfl
  have hsina : sin leg.a.legAngle = sin leg.direction * cos leg.halfSpread -
      cos leg.direction * sin leg.halfSpread := by
    rw [leg.legAngle_a, sin_sub]
  have hcosa : cos leg.a.legAngle = cos leg.direction * cos leg.halfSpread +
      sin leg.direction * sin leg.halfSpread := by
    rw [leg.legAngle_a, cos_sub]
  have hsinb : sin leg.b.legAngle = sin leg.direction * cos leg.halfSpread +
      cos leg.direction * sin leg.halfSpread := by
    rw [leg.legAngle_b, sin_add]
  have hcosb : cos leg.b.legAngle = cos leg.direction * cos leg.halfSpread -
      sin leg.direction * sin leg.halfSpread := by
    rw [leg.legAngle_b, cos_add]
  simp only [htargets, add_sub_cancel_left, mul_div_cancel₀ _ hrate, hsina, hcosa, hsinb, hcosb, x,
    y, LegState.along, LegState.across]
  constructor
  · ring
  · ring

section Shown

variable {p : Params ℝ} {i : Input ℝ} {f : LegForce ℝ} {leg : LegState ℝ}
  (hf : f.kine = p.leg) (hlength : p.leg.segLength ≠ 0)
  (hspring : i.robotSpring = p.leg.springRate) (hrate : p.leg.springRate ≠ 0)
  (ha : leg.a.motorAngle = leg.a.legAngle) (hb : leg.b.motorAngle = leg.b.legAngle)
  (hsin : sin (leg.b.legAngle - leg.a.legAngle) ≠ 0)

include hf hlength hspring hrate ha hb hsin

/-- The targets change the part of a force along the leg and the part across it each by a factor of
its own. -/
theorem shown_parts (force : ℝ × ℝ) :
    let shown := (f.compute (leg.deflect (deflectionTargets p i leg force))).onBody
    leg.along shown = cot leg.halfSpread * leg.along force ∧
      leg.across shown = -tan leg.halfSpread * leg.across force := by
  intro shown
  obtain ⟨htorqueA, htorqueB⟩ := torque_deflectionTargets ha hb hspring hrate force
  obtain ⟨halong, hacross⟩ := LegForce.compute_deflect (f := f)
    (deflectionTargets p i leg force) (hf ▸ hlength) hsin
  rw [hf, htorqueA, htorqueB] at halong hacross
  rw [leg.sin_spread] at hsin
  have hs : sin leg.halfSpread ≠ 0 := fun h => hsin (by rw [h]; ring)
  have hc : cos leg.halfSpread ≠ 0 := fun h => hsin (by rw [h]; ring)
  rw [halong, hacross, cot_eq_cos_div_sin, tan_eq_sin_div_cos]
  constructor
  · field_simp
    ring
  · field_simp
    ring

/-- A force is realised if neither of its parts is changed. -/
theorem realised_iff (force : ℝ × ℝ) :
    let shown := f.compute (leg.deflect (deflectionTargets p i leg force))
    shown.fx = force.1 ∧ shown.fz = -force.2 ↔
      (cot leg.halfSpread = 1 ∨ leg.along force = 0) ∧
        (tan leg.halfSpread = -1 ∨ leg.across force = 0) := by
  intro shown
  obtain ⟨halong, hacross⟩ := shown_parts hf hlength hspring hrate ha hb hsin force
  have hpair : shown.fx = force.1 ∧ shown.fz = -force.2 ↔ shown.onBody = force := by
    rw [Prod.ext_iff]
    exact and_congr Iff.rfl neg_eq_iff_eq_neg.symm
  rw [hpair, ← leg.along_across_inj, halong, hacross, mul_left_eq_self₀, mul_left_eq_self₀,
    neg_eq_iff_eq_neg]

/-- The two factors are reciprocal but for the sign, so that one of them changes its part. -/
theorem exists_not_realised : ∃ force : ℝ × ℝ,
    let shown := f.compute (leg.deflect (deflectionTargets p i leg force))
    ¬ (shown.fx = force.1 ∧ shown.fz = -force.2) := by
  have hrealised := realised_iff hf hlength hspring hrate ha hb hsin
  -- A force along the leg is the example, unless it is the part along the leg that is not changed.
  have hunit := sin_sq_add_cos_sq leg.direction
  by_cases hcot : cot leg.halfSpread = 1
  · have htan : tan leg.halfSpread ≠ -1 := by
      rw [tan_eq_sin_div_cos, ← inv_div, ← cot_eq_cos_div_sin, hcot]
      norm_num
    refine ⟨(-sin leg.direction, cos leg.direction), fun h => ?_⟩
    obtain hfactor | hzero := ((hrealised _).mp h).2
    · exact htan hfactor
    · unfold LegState.across at hzero
      linarith
  · refine ⟨(cos leg.direction, sin leg.direction), fun h => ?_⟩
    obtain hfactor | hzero := ((hrealised _).mp h).1
    · exact hcot hfactor
    · unfold LegState.along at hzero
      linarith

/-- The force shown by the deflections that stance asks for: of the force that was commanded, the
part along the leg with one factor and the part across it with another. The command is realised
exactly if neither part is changed, and every leg has a command that it does not realise. -/
theorem compute_deflected :
    let shown (force : ℝ × ℝ) := f.compute (leg.deflect (deflectionTargets p i leg force))
    (∀ force,
      leg.along (shown force).onBody = cot leg.halfSpread * leg.along force ∧
      leg.across (shown force).onBody = -tan leg.halfSpread * leg.across force ∧
      ((shown force).fx = force.1 ∧ (shown force).fz = -force.2 ↔
        (cot leg.halfSpread = 1 ∨ leg.along force = 0) ∧
          (tan leg.halfSpread = -1 ∨ leg.across force = 0))) ∧
    ∃ force, ¬ ((shown force).fx = force.1 ∧ (shown force).fz = -force.2) := by
  intro shown
  refine ⟨fun force => ?_, exists_not_realised hf hlength hspring hrate ha hb hsin⟩
  obtain ⟨halong, hacross⟩ := shown_parts hf hlength hspring hrate ha hb hsin force
  exact ⟨halong, hacross, realised_iff hf hlength hspring hrate ha hb hsin force⟩

end Shown

/-- A leg with its segments at one and two radians and its springs at rest. -/
def crouched {α : Type} [Scalar α] : LegState α := ⟨⟨1, 0, 1, 0⟩, ⟨2, 0, 2, 0⟩, ⟨0, 0⟩⟩

theorem crouched_direction : crouched.direction = (3 / 2 : ℝ) := by
  simp only [LegState.direction, crouched, Scalar.real_add, Scalar.real_div, Scalar.real_one,
    Scalar.real_numeral]
  norm_num

theorem crouched_halfSpread : crouched.halfSpread = (1 / 2 : ℝ) := by
  simp only [LegState.halfSpread, crouched, Scalar.real_sub, Scalar.real_div, Scalar.real_one,
    Scalar.real_numeral]
  norm_num

theorem sin_crouched : sin (crouched.b.legAngle - crouched.a.legAngle) ≠ 0 := by
  have hspread : crouched.b.legAngle - crouched.a.legAngle = (1 : ℝ) := by
    simp only [crouched, Scalar.real_one, Scalar.real_numeral]
    norm_num
  rw [hspread]
  exact (sin_pos_of_pos_of_lt_pi one_pos (by linarith [pi_gt_three])).ne'

theorem standard_compute_deflected :
    let p : Params ℝ := .standard
    let i : Input ℝ := .standard
    let f : LegForce ℝ := ⟨p.leg, .standard, 0, 0⟩
    let leg : LegState ℝ := crouched
    let shown (force : ℝ × ℝ) := f.compute (leg.deflect (deflectionTargets p i leg force))
    (f.kine = p.leg ∧ p.leg.segLength ≠ 0 ∧ i.robotSpring = p.leg.springRate ∧
      p.leg.springRate ≠ 0 ∧ leg.a.motorAngle = leg.a.legAngle ∧
      leg.b.motorAngle = leg.b.legAngle ∧ sin (leg.b.legAngle - leg.a.legAngle) ≠ 0) ∧
    (∀ force,
      leg.along (shown force).onBody = cot leg.halfSpread * leg.along force ∧
      leg.across (shown force).onBody = -tan leg.halfSpread * leg.across force ∧
      ((shown force).fx = force.1 ∧ (shown force).fz = -force.2 ↔
        (cot leg.halfSpread = 1 ∨ leg.along force = 0) ∧
          (tan leg.halfSpread = -1 ∨ leg.across force = 0))) ∧
    ∃ force, ¬ ((shown force).fx = force.1 ∧ (shown force).fz = -force.2) := by
  intro p i f leg shown
  have hlength : p.leg.segLength ≠ 0 := by
    norm_num [p, Params.standard, LegKinematics.standard]
  have hrate : p.leg.springRate ≠ 0 := by
    norm_num [p, Params.standard, LegKinematics.standard]
  exact ⟨⟨rfl, hlength, rfl, hrate, rfl, rfl, sin_crouched⟩,
    compute_deflected rfl hlength rfl hrate rfl rfl sin_crouched⟩

/-- The crouched leg, asked to carry the body, shows another force. -/
theorem not_always_realised :
    ¬ ∀ (p : Params ℝ) (i : Input ℝ) (f : LegForce ℝ) (leg : LegState ℝ) (force : ℝ × ℝ),
      f.kine = p.leg → p.leg.segLength ≠ 0 → i.robotSpring = p.leg.springRate →
      p.leg.springRate ≠ 0 → leg.a.motorAngle = leg.a.legAngle →
      leg.b.motorAngle = leg.b.legAngle → sin (leg.b.legAngle - leg.a.legAngle) ≠ 0 →
      let shown := f.compute (leg.deflect (deflectionTargets p i leg force))
      shown.fx = force.1 ∧ shown.fz = -force.2 := by
  intro h
  have hlength : (0.5 : ℝ) ≠ 0 := by norm_num
  have hrate : (1600 : ℝ) ≠ 0 := by norm_num
  let p : Params ℝ := { (Params.standard : Params ℝ) with leg := ⟨0.5, 1600⟩ }
  let i : Input ℝ := { (Input.standard : Input ℝ) with robotSpring := 1600 }
  let f : LegForce ℝ := ⟨⟨0.5, 1600⟩, .standard, 0, 0⟩
  have hupward := h p i f crouched (0, 400) rfl hlength rfl hrate rfl rfl sin_crouched
  obtain ⟨-, htan | hacross⟩ :=
    (realised_iff (f := f) rfl hlength rfl hrate rfl rfl sin_crouched (0, 400)).mp hupward
  · have hpos : 0 < tan crouched.halfSpread := by
      rw [crouched_halfSpread]
      exact tan_pos_of_pos_of_lt_pi_div_two (by norm_num) (by linarith [pi_gt_three])
    linarith
  · have hcos : 0 < cos (3 / 2) :=
      cos_pos_of_mem_Ioo ⟨by linarith [pi_gt_three], by linarith [pi_gt_d2]⟩
    rw [LegState.across, crouched_direction] at hacross
    linarith

end LegHop

end BoomWalker
