/-
The curve that the swinging leg follows.

Main statement: over exact arithmetic, angle and length of the swinging leg are smooth functions of
the angle of the stance leg, and their rates are the slopes times the rate of that angle. The angle
begins as it was captured and ends at its target, from whichever side the stance leg comes. The
length is retracted at the midpoint. It begins as it was captured and ends at the rest length if the
stance leg started below its target. If it started above, the two halves of the swing are
exchanged: each end of the swing lies on the continuation of the half that belongs to the other end
(`swing_curves`). So the leg does not always start from where it was (`not_always_from_exit`).

The selection of a half compares the stance angle with the midpoint, and has the half that begins the
swing below it. The two halves meet with the same value and slope, so the curve is smooth in either
case (`differentiable_lengthCurve`).
-/
import BoomWalker.Gait.SlipWalk.Cycle
import BoomWalker.Proofs.Motion.CubicSpline

namespace BoomWalker.SlipWalk

variable {α : Type} [Scalar α]

/-! ## The pieces of the curve -/

/-- Angle of the swinging leg where the stance leg is at an angle. -/
def angleCurve (p : Params α) (i : Input α) (e : ExitConditions α) (x : α) : α :=
  (swingPolar p i e ⟨x, 0, 0, 0⟩).q

/-- Length of the swinging leg where the stance leg is at an angle. -/
def lengthCurve (p : Params α) (i : Input α) (e : ExitConditions α) (x : α) : α :=
  (swingPolar p i e ⟨x, 0, 0, 0⟩).r

/-- The angle, from the captured one to the target. -/
def angleSpline (p : Params α) (i : Input α) (e : ExitConditions α) : CubicSpline α :=
  ⟨e.stance.q, i.stanceTarget, e.flight.q, i.flightTarget, 0,
    p.swingEndVelocity / (i.stanceTarget - e.stance.q)⟩

/-- The stance angle at mid swing. -/
def midSwing (i : Input α) (e : ExitConditions α) : α := (e.stance.q + i.stanceTarget) / 2

/-- The length over the first half, from the captured one to the retracted one. -/
def retracting (i : Input α) (e : ExitConditions α) : CubicSpline α :=
  ⟨e.stance.q, midSwing i e, e.flight.r, i.slipLeg - i.swingRetraction, 0, 0⟩

/-- The length over the second half, from the retracted one to the rest length. -/
def extending (i : Input α) (e : ExitConditions α) : CubicSpline α :=
  ⟨midSwing i e, i.stanceTarget, i.slipLeg - i.swingRetraction, i.slipLeg, 0, 0⟩

/-- The half that a stance angle selects. -/
def lengthSpline (i : Input α) (e : ExitConditions α) (x : α) : CubicSpline α :=
  if x ≤ midSwing i e then retracting i e else extending i e

/-- The rates are the slopes of the pieces times the rate of the stance angle. -/
theorem swingPolar_eq (p : Params α) (i : Input α) (e : ExitConditions α) (sl : LegPolar α) :
    swingPolar p i e sl =
      ⟨angleCurve p i e sl.q, lengthCurve p i e sl.q, ((angleSpline p i e).eval sl.q).2 * sl.dq,
        ((lengthSpline i e sl.q).eval sl.q).2 * sl.dq⟩ := rfl

/-! ## Smoothness -/

/-- A curve takes a value at a point, with a slope that is the same on both sides. -/
structure PassesThrough (curve : ℝ → ℝ) (x value slope : ℝ) : Prop where
  value : curve x = value
  slope : HasDerivAt curve slope x

section Curves

variable {p : Params ℝ} {i : Input ℝ} {e : ExitConditions ℝ} (hne : e.stance.q ≠ i.stanceTarget)

theorem midSwing_sub_start : midSwing i e - e.stance.q = (i.stanceTarget - e.stance.q) / 2 := by
  simp only [midSwing, Scalar.real_add, Scalar.real_div, Scalar.real_numeral]
  ring

theorem target_sub_midSwing : i.stanceTarget - midSwing i e = (i.stanceTarget - e.stance.q) / 2 := by
  simp only [midSwing, Scalar.real_add, Scalar.real_div, Scalar.real_numeral]
  ring

include hne

theorem start_ne_midSwing : e.stance.q ≠ midSwing i e := by
  intro heq
  have hhalf := midSwing_sub_start (i := i) (e := e)
  rw [← heq] at hhalf
  exact hne (by linarith)

theorem midSwing_ne_target : midSwing i e ≠ i.stanceTarget := by
  intro heq
  have hhalf := target_sub_midSwing (i := i) (e := e)
  rw [heq] at hhalf
  exact hne (by linarith)

theorem hasDerivAt_angleCurve (x : ℝ) :
    HasDerivAt (angleCurve p i e) ((angleSpline p i e).eval x).2 x :=
  CubicSpline.hasDerivAt_eval (c := angleSpline p i e) hne x

/-- The second half begins where the first ends, on whichever side of it the swing starts. -/
theorem hasDerivAt_lengthCurve (x : ℝ) :
    HasDerivAt (lengthCurve p i e) ((lengthSpline i e x).eval x).2 x :=
  CubicSpline.hasDerivAt_join (c := retracting i e) (d := extending i e) (start_ne_midSwing hne)
    (midSwing_ne_target hne) rfl rfl rfl x

/-- The rates of the swing are the slopes of the curve times the rate of the stance angle. -/
theorem swingPolar_deriv (sl : LegPolar ℝ) :
    swingPolar p i e sl =
      ⟨angleCurve p i e sl.q, lengthCurve p i e sl.q, deriv (angleCurve p i e) sl.q * sl.dq,
        deriv (lengthCurve p i e) sl.q * sl.dq⟩ := by
  rw [swingPolar_eq, (hasDerivAt_angleCurve hne sl.q).deriv, (hasDerivAt_lengthCurve hne sl.q).deriv]

/-! ## The ends and the midpoint -/

/-- What a piece takes at a stance angle, the curve takes there. -/
theorem angleCurve_passes {x y dy : ℝ} (h : (angleSpline p i e).eval x = (y, dy)) :
    PassesThrough (angleCurve p i e) x y dy := by
  have hslope := hasDerivAt_angleCurve (p := p) hne x
  rw [h] at hslope
  exact ⟨congrArg Prod.fst h, hslope⟩

theorem lengthCurve_passes {x y dy : ℝ} (h : (lengthSpline i e x).eval x = (y, dy)) :
    PassesThrough (lengthCurve p i e) x y dy := by
  have hslope := hasDerivAt_lengthCurve (p := p) hne x
  rw [h] at hslope
  exact ⟨congrArg Prod.fst h, hslope⟩

/-- The start lies before the second half by its length, and the half is continued to it. -/
theorem extending_start :
    (extending i e).eval e.stance.q =
      (i.slipLeg + 4 * i.swingRetraction,
        24 * i.swingRetraction / (e.stance.q - i.stanceTarget)) := by
  have hdomain : e.stance.q - i.stanceTarget ≠ 0 := sub_ne_zero.mpr hne
  have hstart : e.stance.q = midSwing i e - (i.stanceTarget - midSwing i e) := by
    linarith [midSwing_sub_start (i := i) (e := e), target_sub_midSwing (i := i) (e := e)]
  calc
    _ = (extending i e).eval (midSwing i e - (i.stanceTarget - midSwing i e)) :=
      congrArg (extending i e).eval hstart
    _ = (i.slipLeg + 4 * (i.slipLeg - (i.slipLeg - i.swingRetraction)),
          -12 * ((i.slipLeg - (i.slipLeg - i.swingRetraction)) /
            (i.stanceTarget - midSwing i e))) :=
      CubicSpline.eval_before (c := extending i e) (midSwing_ne_target hne) Scalar.real_zero
        Scalar.real_zero
    _ = _ := by
      rw [target_sub_midSwing, sub_sub_cancel, ← neg_sub e.stance.q]
      apply Prod.ext
      · rfl
      · field_simp
        ring

/-- The target lies past the first half by its length, and the half is continued to it. -/
theorem retracting_target :
    (retracting i e).eval i.stanceTarget =
      (5 * e.flight.r - 4 * (i.slipLeg - i.swingRetraction),
        24 * (e.flight.r - (i.slipLeg - i.swingRetraction)) /
          (i.stanceTarget - e.stance.q)) := by
  have hdomain : i.stanceTarget - e.stance.q ≠ 0 := sub_ne_zero.mpr hne.symm
  have htarget : i.stanceTarget = midSwing i e + (midSwing i e - e.stance.q) := by
    linarith [midSwing_sub_start (i := i) (e := e), target_sub_midSwing (i := i) (e := e)]
  calc
    _ = (retracting i e).eval (midSwing i e + (midSwing i e - e.stance.q)) :=
      congrArg (retracting i e).eval htarget
    _ = (e.flight.r - 4 * (i.slipLeg - i.swingRetraction - e.flight.r),
          -12 * ((i.slipLeg - i.swingRetraction - e.flight.r) / (midSwing i e - e.stance.q))) :=
      CubicSpline.eval_after (c := retracting i e) (start_ne_midSwing hne) Scalar.real_zero
        Scalar.real_zero
    _ = _ := by
      rw [midSwing_sub_start]
      apply Prod.ext
      · ring
      · field_simp
        ring

/-- The midpoint selects the first half, but the second half begins there alike. -/
theorem retracting_midSwing :
    (retracting i e).eval (midSwing i e) = (i.slipLeg - i.swingRetraction, 0) := by
  rw [← Scalar.real_zero]
  exact CubicSpline.eval_x1 (c := retracting i e) (start_ne_midSwing hne)

theorem extending_target : (extending i e).eval i.stanceTarget = (i.slipLeg, 0) := by
  rw [← Scalar.real_zero]
  exact CubicSpline.eval_x1 (c := extending i e) (midSwing_ne_target hne)

omit hne in
theorem retracting_start : (retracting i e).eval e.stance.q = (e.flight.r, 0) := by
  rw [← Scalar.real_zero]
  exact CubicSpline.eval_x0 (retracting i e)

/-- A swing with the stance leg below its target runs through its halves in their order. -/
theorem lengthCurve_forwards (hlt : e.stance.q < i.stanceTarget) :
    PassesThrough (lengthCurve p i e) e.stance.q e.flight.r 0 ∧
      PassesThrough (lengthCurve p i e) i.stanceTarget i.slipLeg 0 := by
  have hstart : e.stance.q ≤ midSwing i e := by
    linarith [midSwing_sub_start (i := i) (e := e)]
  have htarget : ¬ i.stanceTarget ≤ midSwing i e := by
    linarith [target_sub_midSwing (i := i) (e := e)]
  constructor
  · apply lengthCurve_passes hne
    rw [lengthSpline, if_pos hstart]
    exact retracting_start
  · apply lengthCurve_passes hne
    rw [lengthSpline, if_neg htarget]
    exact extending_target hne

/-- With the stance leg above its target each end of the swing selects the other half. -/
theorem lengthCurve_backwards (hlt : i.stanceTarget < e.stance.q) :
    PassesThrough (lengthCurve p i e) e.stance.q (i.slipLeg + 4 * i.swingRetraction)
        (24 * i.swingRetraction / (e.stance.q - i.stanceTarget)) ∧
      PassesThrough (lengthCurve p i e) i.stanceTarget
        (5 * e.flight.r - 4 * (i.slipLeg - i.swingRetraction))
        (24 * (e.flight.r - (i.slipLeg - i.swingRetraction)) /
          (i.stanceTarget - e.stance.q)) := by
  have hstart : ¬ e.stance.q ≤ midSwing i e := by
    linarith [midSwing_sub_start (i := i) (e := e)]
  have htarget : i.stanceTarget ≤ midSwing i e := by
    linarith [target_sub_midSwing (i := i) (e := e)]
  constructor
  · apply lengthCurve_passes hne
    rw [lengthSpline, if_neg hstart]
    exact extending_start hne
  · apply lengthCurve_passes hne
    rw [lengthSpline, if_pos htarget]
    exact retracting_target hne

/-- The curve of a swing. Its rates are its slopes at the rate of the stance angle. The angle is
right at both ends, and the length at the midpoint. The length is right at both ends if the stance leg
starts below its target, and otherwise it is a continuation of the other half there. -/
theorem swing_curves :
    let start := e.stance.q
    let target := i.stanceTarget
    let retracted := i.slipLeg - i.swingRetraction
    let angle := angleCurve p i e
    let length := lengthCurve p i e
    (Differentiable ℝ angle ∧ Differentiable ℝ length ∧ ∀ sl, swingPolar p i e sl =
      ⟨angle sl.q, length sl.q, deriv angle sl.q * sl.dq, deriv length sl.q * sl.dq⟩) ∧
    PassesThrough angle start e.flight.q 0 ∧
    PassesThrough angle target i.flightTarget (p.swingEndVelocity / (target - start)) ∧
    PassesThrough length ((start + target) / 2) retracted 0 ∧
    (start < target →
      PassesThrough length start e.flight.r 0 ∧ PassesThrough length target i.slipLeg 0) ∧
    (target < start →
      PassesThrough length start (i.slipLeg + 4 * i.swingRetraction)
          (24 * i.swingRetraction / (start - target)) ∧
        PassesThrough length target (5 * e.flight.r - 4 * retracted)
          (24 * (e.flight.r - retracted) / (target - start))) := by
  intro start target retracted angle length
  refine ⟨⟨fun x => (hasDerivAt_angleCurve hne x).differentiableAt,
    fun x => (hasDerivAt_lengthCurve hne x).differentiableAt, swingPolar_deriv hne⟩, ?_, ?_, ?_,
    lengthCurve_forwards hne, lengthCurve_backwards hne⟩
  · apply angleCurve_passes hne
    rw [← Scalar.real_zero]
    exact CubicSpline.eval_x0 (angleSpline p i e)
  · apply angleCurve_passes hne
    exact CubicSpline.eval_x1 (c := angleSpline p i e) hne
  · have hmiddle : (start + target) / 2 = midSwing i e := rfl
    rw [hmiddle]
    apply lengthCurve_passes hne
    rw [lengthSpline, if_pos le_rfl]
    exact retracting_midSwing hne

end Curves

/-- Legs of which the stance leg stands at an angle, and the other at 1.6 with a length of 0.85. -/
noncomputable def exitAt (stance : ℝ) : ExitConditions ℝ :=
  ⟨⟨stance, 0.9, 0, 0⟩, ⟨1.6, 0.85, 0, 0⟩, (stance, 0.9), (1.6, 0.85)⟩

/-- An input with a target of 1.85 for the stance leg, and a little retraction. -/
noncomputable def smallRetraction : Input ℝ :=
  { Input.standard with stanceTarget := 1.85, slipLeg := 0.9, swingRetraction := 0.01 }

/-- A swing that starts below the target of the stance leg, and one that starts above it. -/
theorem exitAt_swing_curves :
    let p : Params ℝ := .standard
    let i := smallRetraction
    (exitAt 1.4).stance.q ≠ i.stanceTarget ∧ (exitAt 2).stance.q ≠ i.stanceTarget ∧
      PassesThrough (lengthCurve p i (exitAt 1.4)) 1.4 0.85 0 ∧
      PassesThrough (lengthCurve p i (exitAt 2)) 2 (0.9 + 4 * 0.01)
        (24 * 0.01 / (2 - 1.85)) := by
  intro p i
  have hbelow : (1.4 : ℝ) < 1.85 := by norm_num
  have habove : (1.85 : ℝ) < 2 := by norm_num
  obtain ⟨-, -, -, -, hforwards, -⟩ := swing_curves (p := p) (i := i) (e := exitAt 1.4) hbelow.ne
  obtain ⟨-, -, -, -, -, hbackwards⟩ := swing_curves (p := p) (i := i) (e := exitAt 2) habove.ne'
  exact ⟨hbelow.ne, habove.ne', (hforwards hbelow).1, (hbackwards habove).1⟩

/-- With the stance leg past its target, the flight leg does not start from where it was. -/
theorem not_always_from_exit :
    ¬ ∀ (p : Params ℝ) (i : Input ℝ) (e : ExitConditions ℝ), e.stance.q ≠ i.stanceTarget →
      PassesThrough (lengthCurve p i e) e.stance.q e.flight.r 0 := by
  intro h
  have habove : (1.85 : ℝ) < 2 := by norm_num
  have hstart := (h .standard smallRetraction (exitAt 2) habove.ne').value
  have hvalue := (lengthCurve_backwards (p := .standard) (i := smallRetraction) (e := exitAt 2)
    habove.ne' habove).1.value
  have heq : (0.85 : ℝ) = 0.9 + 4 * 0.01 := hstart.symm.trans hvalue
  norm_num at heq

end BoomWalker.SlipWalk
