/-
How fast the motor targets of canonical walking move.

Main statement: over exact arithmetic, the velocity that each motor is tracked at is the time derivative
of the position that its limiter is moved towards, as long as the phase is inside its bounds and the
step is not completed (`stepTargets_move`). The measured velocities are taken to be those of the
measured angles. This holds of any design, not only of the coefficients that the gait walks with, so
the targets are stated here for every design first (`stepTargets`), of which a walking cycle is one
(`targets_eq_stepTargets`).

The phase moves with the stance leg (`hasDerivAt_stepPhase`), the outputs with the phase
(`Coeffs.hasDerivAt_eval`), the motors with the outputs, which are added up with constant weights
(`hasDerivAt_dot`), and the torso takes its own motion from all of them (`walkingTargets_move`).
-/
import Mathlib
import BoomWalker.Proofs.Gait.CanonWalk.Cycle
import BoomWalker.Proofs.Gait.Resuming

namespace BoomWalker

/-- The velocities that are measured of the torso and of the motors of a leg are those of the measured
angles, at a time. -/
structure Snapshot.Moves (snap : ℝ → Snapshot ℝ) (side : Side) (t : ℝ) : Prop where
  pitch : HasDerivAt (fun τ => (snap τ).position.bodyPitch) (snap t).position.bodyPitchVelocity t
  a : HasDerivAt (fun τ => ((snap τ).legs.get side).a.motorAngle)
    ((snap t).legs.get side).a.motorVelocity t
  b : HasDerivAt (fun τ => ((snap τ).legs.get side).b.motorAngle)
    ((snap t).legs.get side).b.motorVelocity t

namespace CanonWalk

/-! ## The targets of a design -/

section Design

variable {α : Type} [Scalar α] (coeffs : Outputs (Coeffs α)) (snap : Snapshot α) (stance : Side)

/-- Stance leg angle at the start of a step. -/
def stepStart : α := (walkingOutputs coeffs 0).stanceAngle

/-- The stance leg angle runs to where the other leg starts. -/
def stepSpan : α := (walkingOutputs coeffs 0).otherAngle - stepStart coeffs

/-- The part of a step that the stance leg has completed. -/
def stepPhase : α :=
  ((Canonical.ofSnapshot snap stance).stanceAngle.1 - stepStart coeffs) / stepSpan coeffs

def stepPhaseRate : α := (Canonical.ofSnapshot snap stance).stanceAngle.2 / stepSpan coeffs

/-- The motor targets of a walking cycle that begins with a stance leg. -/
def stepTargets (p : Params α) : Sided (MotorTargets α) :=
  let stance := if 1 ≤ stepPhase coeffs snap stance then stance.opposite else stance
  let t := walkingTargets coeffs (.ofSnapshot snap stance)
    (Scalar.clamp (stepPhase coeffs snap stance) p.tauMin p.tauMax)
    (stepPhaseRate coeffs snap stance)
  .ofFn fun side => if side = stance then t.1 else t.2

/-- A walking cycle moves the motors towards the targets of its own coefficients. -/
theorem targets_eq_stepTargets (p : Params α) (s : State α) :
    (s.advance p snap .walking).targets snap = stepTargets walkingCoeffs snap s.stance p := rfl

def MotorTargets.positions (m : MotorTargets α) : α × α := (m.posA, m.posB)

def MotorTargets.velocities (m : MotorTargets α) : α × α := (m.velA, m.velB)

end Design

open Real

variable {t : ℝ}

/-! ## Outputs and motors -/

theorem Coeffs.hasDerivAt_eval (c : Coeffs ℝ) (x : ℝ) : HasDerivAt c.eval (c.slope x) x := by
  have hdecay : HasDerivAt (fun x => exp (-c.a4 * x)) (exp (-c.a4 * x) * -c.a4) x :=
    (hasDerivAt_const_mul (-c.a4)).exp
  have hangle : HasDerivAt (fun x => c.a2 * x) c.a2 x := hasDerivAt_const_mul c.a2
  have hswing : HasDerivAt (fun x => c.a1 * cos (c.a2 * x) + c.a3 * sin (c.a2 * x))
      (c.a1 * (-sin (c.a2 * x) * c.a2) + c.a3 * (cos (c.a2 * x) * c.a2)) x :=
    (hangle.cos.const_mul c.a1).add (hangle.sin.const_mul c.a3)
  refine ((hdecay.mul hswing).add_const c.a5).congr_deriv ?_
  simp only [slope, Scalar.real_add, Scalar.real_mul, Scalar.real_neg, Scalar.real_exp,
    Scalar.real_sin, Scalar.real_cos]
  ring

section Phase

variable (coeffs : Outputs (Coeffs ℝ)) {tau : ℝ → ℝ} (dtau : ℝ → ℝ)
  (htau : HasDerivAt tau (dtau t) t)

include htau

theorem hasDerivAt_dot (w : Outputs ℝ) :
    HasDerivAt (fun τ => w.dot (walkingOutputs coeffs (tau τ)))
      (w.dot ((walkingSlopes coeffs (tau t)).map (· * dtau t))) t := by
  have houtput (c : Coeffs ℝ) :
      HasDerivAt (fun τ => c.eval (tau τ)) (c.slope (tau t) * dtau t) t :=
    (c.hasDerivAt_eval (tau t)).comp t htau
  exact ((((houtput coeffs.stanceAngle).const_mul w.stanceAngle).add
    ((houtput coeffs.otherAngle).const_mul w.otherAngle)).add
    ((houtput coeffs.stanceKnee).const_mul w.stanceKnee)).add
    ((houtput coeffs.otherKnee).const_mul w.otherKnee)

/-- The targets move at their velocities as the phase and the torso do. -/
theorem walkingTargets_move (canon : ℝ → Canonical ℝ)
    (htorso : HasDerivAt (fun τ => (canon τ).torso) (canon t).torsoRate t) :
    let targets τ := walkingTargets coeffs (canon τ) (tau τ) (dtau τ)
    HasDerivAt (fun τ => (targets τ).1.positions) (targets t).1.velocities t ∧
      HasDerivAt (fun τ => (targets τ).2.positions) (targets t).2.velocities t := by
  intro targets
  -- The four motors differ in their weights only. The torso that they are measured from moves too.
  have hmotor (w : Outputs ℝ) :
      HasDerivAt (fun τ => toRig (canon τ).torso (w.dot (walkingOutputs coeffs (tau τ))))
        (w.dot ((walkingSlopes coeffs (tau t)).map (· * dtau t)) - (canon t).torsoRate) t :=
    ((hasDerivAt_dot coeffs dtau htau w).sub_const (π / 2)).sub htorso
  exact ⟨(hmotor motorWeights.stanceA).prodMk (hmotor motorWeights.stanceB),
    (hmotor motorWeights.otherA).prodMk (hmotor motorWeights.otherB)⟩

end Phase

/-! ## The phase -/

section Motion

variable {snap : ℝ → Snapshot ℝ} {stance : Side} (hmoves : Snapshot.Moves snap stance t)

include hmoves

theorem hasDerivAt_torso :
    HasDerivAt (fun τ => (Canonical.ofSnapshot (snap τ) stance).torso)
      (Canonical.ofSnapshot (snap t) stance).torsoRate t :=
  hmoves.pitch.sub_const (3 * (π / 2))

/-- The stance leg turns with its motors and with the torso that they are measured from. -/
theorem hasDerivAt_stanceAngle :
    HasDerivAt (fun τ => (Canonical.ofSnapshot (snap τ) stance).stanceAngle.1)
      (Canonical.ofSnapshot (snap t) stance).stanceAngle.2 t := by
  have htorso := hasDerivAt_torso hmoves
  have ha : HasDerivAt (fun τ => (Canonical.ofSnapshot (snap τ) stance).motors.stanceA)
      (Canonical.ofSnapshot (snap t) stance).motorRates.stanceA t :=
    (hmoves.a.add_const (π / 2)).add htorso
  have hb : HasDerivAt (fun τ => (Canonical.ofSnapshot (snap τ) stance).motors.stanceB)
      (Canonical.ofSnapshot (snap t) stance).motorRates.stanceB t :=
    (hmoves.b.add_const (π / 2)).add htorso
  exact (ha.add hb).div_const 2

theorem hasDerivAt_stepPhase (coeffs : Outputs (Coeffs ℝ)) :
    HasDerivAt (fun τ => stepPhase coeffs (snap τ) stance) (stepPhaseRate coeffs (snap t) stance)
      t :=
  ((hasDerivAt_stanceAngle hmoves).sub_const (stepStart coeffs)).div_const (stepSpan coeffs)

end Motion

/-- The angle of the stance leg is where the phase says that it is on its way. -/
theorem stepPhase_mul {coeffs : Outputs (Coeffs ℝ)}
    (hdiffer : (walkingOutputs coeffs 0).stanceAngle ≠ (walkingOutputs coeffs 0).otherAngle)
    (snap : Snapshot ℝ) (stance : Side) :
    (walkingOutputs coeffs 0).stanceAngle + stepPhase coeffs snap stance *
        ((walkingOutputs coeffs 0).otherAngle - (walkingOutputs coeffs 0).stanceAngle) =
      (Canonical.ofSnapshot snap stance).stanceAngle.1 := by
  have hspan : (walkingOutputs coeffs 0).otherAngle - (walkingOutputs coeffs 0).stanceAngle ≠ 0 :=
    sub_ne_zero.mpr hdiffer.symm
  simp only [stepPhase, stepSpan, stepStart, Scalar.real_zero, Scalar.real_sub, Scalar.real_div]
  rw [div_mul_cancel₀ _ hspan, add_sub_cancel]

/-- Before the step is completed, the leg that bears the load keeps its role, and a phase inside its
bounds is the one that the targets are taken at. -/
theorem get_stepTargets {coeffs : Outputs (Coeffs ℝ)} {snap : Snapshot ℝ} {stance : Side}
    {p : Params ℝ} (hstay : stepPhase coeffs snap stance < 1)
    (hbounds : stepPhase coeffs snap stance ∈ Set.Ioo p.tauMin p.tauMax) (side : Side) :
    (stepTargets coeffs snap stance p).get side =
      let t := walkingTargets coeffs (.ofSnapshot snap stance) (stepPhase coeffs snap stance)
        (stepPhaseRate coeffs snap stance)
      if side = stance then t.1 else t.2 := by
  have hstance : ¬ 1 ≤ stepPhase coeffs snap stance := not_le.mpr hstay
  simp only [stepTargets, Scalar.real_le, Scalar.real_one, if_neg hstance, Sided.get_ofFn,
    Scalar.real_clamp_of_mem (Set.Ioo_subset_Icc_self hbounds)]

/-! ## Walking -/

/-- While the phase is inside its bounds and the step is not completed, the targets move at the
velocities that go with them. -/
theorem hasDerivAt_stepTargets (coeffs : Outputs (Coeffs ℝ)) {snap : ℝ → Snapshot ℝ} {stance : Side}
    (hmoves : Snapshot.Moves snap stance t) (hstay : stepPhase coeffs (snap t) stance < 1)
    {p : Params ℝ} (hbounds : stepPhase coeffs (snap t) stance ∈ Set.Ioo p.tauMin p.tauMax)
    (side : Side) :
    let targets τ := (stepTargets coeffs (snap τ) stance p).get side
    HasDerivAt (fun τ => (targets τ).positions) (targets t).velocities t := by
  intro targets
  let canon τ := Canonical.ofSnapshot (snap τ) stance
  let rate τ := stepPhaseRate coeffs (snap τ) stance
  let roles τ := walkingTargets coeffs (canon τ) (stepPhase coeffs (snap τ) stance) (rate τ)
  let own τ := if side = stance then (roles τ).1 else (roles τ).2
  have hphase := hasDerivAt_stepPhase hmoves coeffs
  have hroles := walkingTargets_move coeffs rate hphase canon (hasDerivAt_torso hmoves)
  have hown : HasDerivAt (fun τ => (own τ).positions) (own t).velocities t := by
    simp only [own]
    split
    · exact hroles.1
    · exact hroles.2
  -- The phase is continuous, so that neither its bounds nor the end of the step are met for a while.
  have hnear : ∀ᶠ τ in nhds t, targets τ = own τ := by
    filter_upwards [hphase.continuousAt.eventually (eventually_lt_nhds hstay),
      hphase.continuousAt.eventually (isOpen_Ioo.mem_nhds hbounds)] with τ hτ hτ'
    exact get_stepTargets hτ hτ' side
  rw [hnear.self_of_nhds]
  exact hown.congr_of_eventuallyEq (hnear.mono fun τ h => congrArg MotorTargets.positions h)

/-- A walking cycle moves its limiters towards the positions of its design, and tracks what they have
reached at the velocities. -/
theorem evaluate_stepTargets (p : Params ℝ) (period : ℝ) (snap : Snapshot ℝ) {i : Input ℝ}
    (hwalking : Mode.ofSelector i.mainController = .walking) (s : State ℝ) (side : Side) :
    let targets := (stepTargets walkingCoeffs snap s.stance p).get side
    let cycle := evaluate p period snap i s
    cycle.1.limiters.get side =
        (s.limiters.get side).move targets (RateLimiter.maxDelta p.motorRateLimit period) ∧
      cycle.2.legs.get side =
        trackLeg p i (cycle.1.limiters.get side) targets (snap.legs.get side) := by
  intro targets cycle
  have htargets : cycle.1.targets snap = stepTargets walkingCoeffs snap s.stance p := by
    rw [← targets_eq_stepTargets, ← hwalking]
    rfl
  constructor
  · rw [evaluate_limiters, htargets]
  · rw [evaluate_legs, htargets]

/-- The motor targets of every design, of which the two leg angles start apart, move at the velocities
that go with them while the phase is inside its bounds and the step is not completed. The phase is the
part of the way that the stance leg has come. A walking cycle of the gait has the targets of its own
design: it moves its limiters towards the positions, and tracks them at the velocities. -/
theorem stepTargets_move {coeffs : Outputs (Coeffs ℝ)}
    (hdiffer : (walkingOutputs coeffs 0).stanceAngle ≠ (walkingOutputs coeffs 0).otherAngle)
    {snap : ℝ → Snapshot ℝ} {stance : Side} {t : ℝ} (hmoves : Snapshot.Moves snap stance t)
    (hstay : stepPhase coeffs (snap t) stance < 1) {p : Params ℝ}
    (hbounds : stepPhase coeffs (snap t) stance ∈ Set.Ioo p.tauMin p.tauMax) :
    let targets τ side := (stepTargets coeffs (snap τ) stance p).get side
    (∀ side, HasDerivAt (fun τ => (targets τ side).positions) (targets t side).velocities t) ∧
      (walkingOutputs coeffs 0).stanceAngle + stepPhase coeffs (snap t) stance *
          ((walkingOutputs coeffs 0).otherAngle - (walkingOutputs coeffs 0).stanceAngle) =
        (Canonical.ofSnapshot (snap t) stance).stanceAngle.1 ∧
      (coeffs = walkingCoeffs → ∀ period i s side, Mode.ofSelector i.mainController = .walking →
        s.stance = stance →
        let cycle := evaluate p period (snap t) i s
        cycle.1.limiters.get side =
            (s.limiters.get side).move (targets t side)
              (RateLimiter.maxDelta p.motorRateLimit period) ∧
          cycle.2.legs.get side =
            trackLeg p i (cycle.1.limiters.get side) (targets t side)
              ((snap t).legs.get side)) := by
  intro targets
  refine ⟨hasDerivAt_stepTargets coeffs hmoves hstay hbounds, stepPhase_mul hdiffer (snap t) stance,
    ?_⟩
  rintro rfl period i s side hwalking rfl
  exact evaluate_stepTargets p period (snap t) hwalking s side

/-- The left leg bears the load and turns with unequal motors, and the torso turns meanwhile. -/
noncomputable def striding (τ : ℝ) : Snapshot ℝ where
  legs := ⟨⟨⟨1.3 + τ, 1, 1.3, 0⟩, ⟨2.3 + -1.5 * τ, -1.5, 2.3, 0⟩, ⟨0, 0⟩⟩, .zero⟩
  position := ⟨nominalPitch + 0.5 * τ, 0.5, 0, 0⟩

theorem striding_moves : Snapshot.Moves striding .left 0 where
  pitch := (hasDerivAt_const_mul 0.5).const_add nominalPitch
  a := (hasDerivAt_id 0).const_add 1.3
  b := (hasDerivAt_const_mul (-1.5)).const_add 2.3

/-- Where the two leg angles of the gait's own design start. -/
theorem walkingCoeffs_start :
    (walkingOutputs (walkingCoeffs : Outputs (Coeffs ℝ)) 0).stanceAngle = 3.56864235 ∧
      (walkingOutputs (walkingCoeffs : Outputs (Coeffs ℝ)) 0).otherAngle - 3.56864235 =
        -0.48946167 := by
  constructor
  · rw [← thetaStart_eq, ← Scalar.real_zero]
    rfl
  · rw [← thetaSpan_eq, ← thetaStart_eq, ← Scalar.real_zero]
    rfl

/-- Angle of the stance leg, and its rate. -/
theorem stanceAngle_striding :
    (Canonical.ofSnapshot (striding 0) .left).stanceAngle = (1.8 + π / 2, 0.25) := by
  simp only [Canonical.stanceAngle, Canonical.ofSnapshot, torsoAngle, striding, nominalPitch,
    toCanonical, Sided.get, Scalar.real_numeral, Scalar.real_halfPi, Scalar.real_add,
    Scalar.real_mul, Scalar.real_div, add_zero, mul_zero, sub_self, Prod.mk.injEq]
  constructor
  · ring
  · norm_num

theorem walkingCoeffs_differ :
    (walkingOutputs (walkingCoeffs : Outputs (Coeffs ℝ)) 0).stanceAngle ≠
      (walkingOutputs walkingCoeffs 0).otherAngle := by
  obtain ⟨hstart, hspan⟩ := walkingCoeffs_start
  intro heq
  rw [← heq, hstart] at hspan
  norm_num at hspan

/-- In the gait's own design the stance leg has come about two fifths of its way. -/
theorem stepPhase_walkingCoeffs : stepPhase walkingCoeffs (striding 0) .left ∈ Set.Ioo 0 1 := by
  obtain ⟨hstart, hspan⟩ := walkingCoeffs_start
  have hphase := stepPhase_mul walkingCoeffs_differ (striding 0) .left
  rw [hstart, hspan, stanceAngle_striding] at hphase
  constructor
  · linarith [pi_lt_d2]
  · linarith [pi_gt_d2]

/-- A design that is at a quarter turn of every output halfway through the step, with outputs of the
other leg that decay. -/
noncomputable def roundCoeffs : Outputs (Coeffs ℝ) where
  stanceAngle := ⟨1, π, 0, 0, 1.3 + 0.5 * π⟩
  otherAngle := ⟨1, π, 1, 1, 0.3 + 0.5 * π⟩
  stanceKnee := ⟨1, π, 0, 0, 1⟩
  otherKnee := ⟨0, π, 1, 1, 0⟩

theorem Coeffs.eval_half (a1 a3 a4 a5 : ℝ) :
    Coeffs.eval ⟨a1, π, a3, a4, a5⟩ (1 / 2) = exp (-a4 / 2) * a3 + a5 := by
  have hdecay : -a4 * (1 / 2) = -a4 / 2 := by ring
  have hangle : π * (1 / 2) = π / 2 := by ring
  simp only [Coeffs.eval, Scalar.real_add, Scalar.real_mul, Scalar.real_neg, Scalar.real_exp,
    Scalar.real_sin, Scalar.real_cos, hdecay, hangle, cos_pi_div_two, sin_pi_div_two]
  ring

theorem Coeffs.slope_half (a1 a3 a4 a5 : ℝ) :
    Coeffs.slope ⟨a1, π, a3, a4, a5⟩ (1 / 2) = -exp (-a4 / 2) * (a4 * a3 + π * a1) := by
  have hdecay : -a4 * (1 / 2) = -a4 / 2 := by ring
  have hangle : π * (1 / 2) = π / 2 := by ring
  simp only [Coeffs.slope, Scalar.real_add, Scalar.real_mul, Scalar.real_neg, Scalar.real_exp,
    Scalar.real_sin, Scalar.real_cos, hdecay, hangle, cos_pi_div_two, sin_pi_div_two]
  ring

theorem roundCoeffs_start :
    (walkingOutputs roundCoeffs 0).stanceAngle = 2.3 + π / 2 ∧
      (walkingOutputs roundCoeffs 0).otherAngle = 1.3 + π / 2 := by
  simp only [walkingOutputs, Outputs.map, eval_zero, roundCoeffs]
  constructor
  · ring
  · ring

theorem roundCoeffs_differ :
    (walkingOutputs roundCoeffs 0).stanceAngle ≠ (walkingOutputs roundCoeffs 0).otherAngle := by
  obtain ⟨hstart, hother⟩ := roundCoeffs_start
  rw [hstart, hother]
  norm_num

theorem stepPhase_roundCoeffs : stepPhase roundCoeffs (striding 0) .left = 1 / 2 := by
  obtain ⟨hstart, hother⟩ := roundCoeffs_start
  have hphase := stepPhase_mul roundCoeffs_differ (striding 0) .left
  rw [hstart, hother, stanceAngle_striding] at hphase
  linarith

theorem stepPhaseRate_roundCoeffs : stepPhaseRate roundCoeffs (striding 0) .left = -0.25 := by
  obtain ⟨hstart, hother⟩ := roundCoeffs_start
  simp only [stepPhaseRate, stepSpan, stepStart, Scalar.real_zero, Scalar.real_sub, Scalar.real_div,
    hstart, hother, stanceAngle_striding]
  norm_num

/-- The torso is upright, and turns. -/
theorem torso_striding :
    (Canonical.ofSnapshot (striding 0) .left).torso = 0 ∧
      (Canonical.ofSnapshot (striding 0) .left).torsoRate = 0.5 := by
  simp [Canonical.ofSnapshot, striding, torsoAngle]

theorem walkingOutputs_roundCoeffs :
    walkingOutputs roundCoeffs (1 / 2) =
      ⟨1.3 + 0.5 * π, exp (-1 / 2) + (0.3 + 0.5 * π), 1, exp (-1 / 2)⟩ := by
  simp only [walkingOutputs, Outputs.map, roundCoeffs, Coeffs.eval_half, mul_zero, mul_one,
    zero_add, add_zero]

theorem walkingSlopes_roundCoeffs :
    walkingSlopes roundCoeffs (1 / 2) = ⟨-π, -exp (-1 / 2) * (1 + π), -π, -exp (-1 / 2)⟩ := by
  simp only [walkingSlopes, Outputs.map, roundCoeffs, Coeffs.slope_half, neg_zero, zero_div,
    exp_zero, mul_zero, mul_one, zero_add, add_zero, neg_mul, one_mul]

theorem walkingTargets_roundCoeffs :
    walkingTargets roundCoeffs (.ofSnapshot (striding 0) .left) (1 / 2) (-0.25) =
      (⟨0.8, 1.8, π / 8 - 0.5, 3 * π / 8 - 0.5⟩,
        ⟨0.3 + exp (-1 / 2) / 2, 0.3 + 3 * exp (-1 / 2) / 2,
          exp (-1 / 2) * (1 + 2 * π) / 8 - 0.5, exp (-1 / 2) * (3 + 2 * π) / 8 - 0.5⟩) := by
  obtain ⟨htorso, hrate⟩ := torso_striding
  simp only [walkingTargets, Canonical.targets, walkingOutputs_roundCoeffs,
    walkingSlopes_roundCoeffs, Outputs.map, outputsToMotors, Outputs.dot, motorWeights, toRig,
    htorso, hrate, Scalar.real_zero, Scalar.real_one, Scalar.real_decimal, Scalar.real_neg,
    Scalar.real_add, Scalar.real_sub, Scalar.real_mul, Scalar.real_halfPi, Prod.mk.injEq,
    MotorTargets.mk.injEq]
  refine ⟨⟨?_, ?_, ?_, ?_⟩, ?_, ?_, ?_, ?_⟩
  all_goals ring

theorem mem_standard_bounds {phase : ℝ} (h : phase ∈ Set.Ioo 0 1) :
    phase ∈ Set.Ioo (Params.standard : Params ℝ).tauMin (Params.standard : Params ℝ).tauMax := by
  simpa [Params.standard] using h

/-- Halfway through a step of the round design the motors move at rates that are known, and the
motors of the gait's own design move at the velocities that its first walking cycle tracks. -/
theorem striding_stepTargets_move :
    let p : Params ℝ := .standard
    let targets coeffs τ side := (stepTargets coeffs (striding τ) .left p).get side
    let cycle := evaluate p 0.001 (striding 0) walkInput .initial
    Snapshot.Moves striding .left 0 ∧
    ((walkingOutputs roundCoeffs 0).stanceAngle ≠ (walkingOutputs roundCoeffs 0).otherAngle ∧
      stepPhase roundCoeffs (striding 0) .left = 1 / 2 ∧
      (targets roundCoeffs 0 .left).positions = (0.8, 1.8) ∧
      HasDerivAt (fun τ => (targets roundCoeffs τ .left).positions)
        (π / 8 - 0.5, 3 * π / 8 - 0.5) 0 ∧
      HasDerivAt (fun τ => (targets roundCoeffs τ .right).positions)
        (exp (-1 / 2) * (1 + 2 * π) / 8 - 0.5, exp (-1 / 2) * (3 + 2 * π) / 8 - 0.5) 0) ∧
    (walkingOutputs (walkingCoeffs : Outputs (Coeffs ℝ)) 0).stanceAngle ≠
        (walkingOutputs walkingCoeffs 0).otherAngle ∧
      stepPhase walkingCoeffs (striding 0) .left ∈ Set.Ioo 0 1 ∧
      ∀ side,
        HasDerivAt (fun τ => (targets walkingCoeffs τ side).positions)
          (targets walkingCoeffs 0 side).velocities 0 ∧
        cycle.2.legs.get side = trackLeg p walkInput (cycle.1.limiters.get side)
          (targets walkingCoeffs 0 side) ((striding 0).legs.get side) := by
  intro p targets cycle
  refine ⟨striding_moves, ?_, ?_⟩
  · have hhalf : stepPhase roundCoeffs (striding 0) .left ∈ Set.Ioo 0 1 := by
      rw [stepPhase_roundCoeffs]
      norm_num
    have hdiffer := roundCoeffs_differ
    have hmoves := (stepTargets_move hdiffer striding_moves hhalf.2 (mem_standard_bounds hhalf)).1
    have hroles := get_stepTargets hhalf.2 (mem_standard_bounds hhalf)
    rw [stepPhase_roundCoeffs, stepPhaseRate_roundCoeffs, walkingTargets_roundCoeffs] at hroles
    have hleft : targets roundCoeffs 0 .left = _ := hroles .left
    have hright : targets roundCoeffs 0 .right = _ := hroles .right
    refine ⟨hdiffer, stepPhase_roundCoeffs, congrArg MotorTargets.positions hleft, ?_, ?_⟩
    · exact (hmoves .left).congr_deriv (congrArg MotorTargets.velocities hleft)
    · exact (hmoves .right).congr_deriv (congrArg MotorTargets.velocities hright)
  · have hphase := stepPhase_walkingCoeffs
    obtain ⟨hmoves, -, hcycle⟩ := stepTargets_move walkingCoeffs_differ striding_moves hphase.2
      (mem_standard_bounds hphase)
    exact ⟨walkingCoeffs_differ, hphase, fun side =>
      ⟨hmoves side, (hcycle rfl 0.001 walkInput .initial side walkInput_mode rfl).2⟩⟩

end CanonWalk

end BoomWalker
