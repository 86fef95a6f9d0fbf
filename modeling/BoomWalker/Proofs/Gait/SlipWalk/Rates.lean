/-
How fast the targets of SLIP walking move.

Main statements: over exact arithmetic, the rates that the controllers of both legs hand on are time
derivatives. The velocities at which the motors of the flight leg are tracked are those of the
positions at which they are tracked, along every motion of the stance leg, and also where it passes the
middle of the swing and the other half of the curve begins (`swingTargets_move`). The force rates of a
stance leg are those of its force while the stiffness stays as it is (`stanceForce_moves`).

The flight leg moves along its curve as fast as the stance leg turns (`swingPolar_moves`). The force
is a product of the stiffness, the compression and the direction of the leg, and its rates are the
derivative of that product. They would be so for a stiffness that changes too, were its rate not left
out (`springForce_moves`).
-/
import BoomWalker.Proofs.Gait.SlipWalk.Swing
import BoomWalker.Proofs.Gait.SlipWalk.SwingCurve
import BoomWalker.Proofs.Motion.LegRates

namespace BoomWalker.SlipWalk

open Real

variable {sl : ℝ → LegPolar ℝ} {t : ℝ}

/-! ## The flight leg -/

section Swing

variable {p : Params ℝ} {i : Input ℝ} {e : ExitConditions ℝ} (hne : e.stance.q ≠ i.stanceTarget)
  (hturns : HasDerivAt (fun τ => (sl τ).q) (sl t).dq t)

include hne hturns

/-- The curve is smooth, so the swing is in motion whatever the stance leg has come to. -/
theorem swingPolar_moves : LegPolar.Moves (fun τ => swingPolar p i e (sl τ)) t := by
  have hangle := (hasDerivAt_angleCurve (p := p) hne (sl t).q).comp t hturns
  have hlength := (hasDerivAt_lengthCurve (p := p) hne (sl t).q).comp t hturns
  exact ⟨hangle, hlength⟩

/-- The targets of motors A and B of the flight leg move at the velocities that go with them, as the
stance leg turns. A walking cycle in single support tracks them. -/
theorem swingTargets_move (hreach : |(swingPolar p i e (sl t)).r| < 2 * p.leg.segLength) :
    let targets τ := swingTargets p i e (sl τ)
    HasDerivAt (fun τ => (targets τ).1) (targets t).2 t ∧
      ∀ period snap s stance, i.mainController = 1 → s.phase = .single stance → s.exit = e →
        (kinematics p i).legSidePolar (snap.legs.get stance) = sl t →
        let leg := snap.legs.get stance.opposite
        let currents := (evaluate p period snap i s).2.legs.get stance.opposite
        let pos := (targets t).1
        let vel := (targets t).2
        currents.a = (legPd i).track pos.1 leg.a.motorAngle vel.1 leg.a.motorVelocity ∧
          currents.b = (legPd i).track pos.2 leg.b.motorAngle vel.2 leg.b.motorVelocity := by
  intro targets
  have hswing := swingPolar_moves (p := p) hne hturns
  constructor
  · exact LegKinematics.hasDerivAt_legPosToMotorPos (k := kinematics p i) hswing.q hswing.r hreach
  · rintro period snap s stance hwalking hphase rfl hstance
    have hcurrents := evaluate_swings p period snap hwalking hphase .zero
    simp only [swingLeg, hstance] at hcurrents
    exact hcurrents

end Swing

/-- A swing with a little retraction, and the stance leg as it passes the middle of it. The leg is
as short as it gets, and both segments turn back with it. -/
theorem exitAt_swingTargets_move :
    let p : Params ℝ := .standard
    let i := smallRetraction
    let e := exitAt 1.4
    let sl (τ : ℝ) : LegPolar ℝ := ⟨1.625 + τ, 0.9, 1, 0⟩
    e.stance.q ≠ i.stanceTarget ∧ HasDerivAt (fun τ => (sl τ).q) (sl 0).dq 0 ∧
      |(swingPolar p i e (sl 0)).r| < 2 * p.leg.segLength ∧
      HasDerivAt (fun τ => (swingTargets p i e (sl τ)).1) (-23 / 18, -23 / 18) 0 := by
  intro p i e sl
  have hne : e.stance.q ≠ i.stanceTarget := by norm_num [e, i, exitAt, smallRetraction]
  have hturns : HasDerivAt (fun τ => (sl τ).q) (sl 0).dq 0 := (hasDerivAt_id 0).const_add 1.625
  have hmiddle : (sl 0).q = midSwing i e := by
    norm_num [sl, i, e, midSwing, exitAt, smallRetraction]
  have hslope : ((angleSpline p i e).eval (sl 0).q).2 = -23 / 18 := by
    have hflat : (angleSpline p i e).dy0 = 0 := Scalar.real_zero
    rw [CubicSpline.eval_snd, hflat, mul_zero]
    norm_num [CubicSpline.position, angleSpline, p, i, e, sl, Params.standard, Input.standard,
      exitAt, smallRetraction]
  have hlength : (lengthSpline i e (sl 0).q).eval (sl 0).q = (0.89, 0) := by
    rw [lengthSpline, hmiddle, if_pos le_rfl, retracting_midSwing hne]
    norm_num [i, smallRetraction]
  have hr : (swingPolar p i e (sl 0)).r = 0.89 := congrArg Prod.fst hlength
  have hdq : (swingPolar p i e (sl 0)).dq = -23 / 18 := by
    simp only [swingPolar_eq, hslope, sl, mul_one]
  have hdr : (swingPolar p i e (sl 0)).dr = 0 := by
    simp only [swingPolar_eq, hlength, Scalar.real_mul, zero_mul]
  have hreach : |(swingPolar p i e (sl 0)).r| < 2 * p.leg.segLength := by
    rw [hr]
    norm_num [p, Params.standard, LegKinematics.standard]
  refine ⟨hne, hturns, hreach, (swingTargets_move hne hturns hreach).1.congr_deriv ?_⟩
  simp [swingTargets, LegKinematics.legVelToMotorVel, hdq, hdr]

/-! ## The stance leg -/

theorem springForce_eq (stiffness rate r0 : ℝ) (x : LegPolar ℝ) :
    springForce stiffness rate r0 x =
      { fx := -stiffness * (x.r - r0) * cos x.q
        dfx := rate * cos x.q * (r0 - x.r) - x.dr * cos x.q * stiffness +
          x.dq * sin x.q * stiffness * (x.r - r0)
        fz := stiffness * (x.r - r0) * sin x.q
        dfz := x.dr * sin x.q * stiffness - rate * sin x.q * (r0 - x.r) +
          x.dq * cos x.q * stiffness * (x.r - r0) } := rfl

/-- The rates of a spring force are its derivatives, also for a stiffness that changes. -/
theorem springForce_moves {stiffness : ℝ → ℝ} {rate : ℝ} (hstiffness : HasDerivAt stiffness rate t)
    (hsl : LegPolar.Moves sl t) (r0 : ℝ) :
    let force τ := springForce (stiffness τ) rate r0 (sl τ)
    HasDerivAt (fun τ => ((force τ).fx, (force τ).fz)) ((force t).dfx, (force t).dfz) t := by
  intro force
  -- The two components hold the same compression with opposite signs.
  have hlength : HasDerivAt (fun τ => (sl τ).r - r0) (sl t).dr t := hsl.r.sub_const r0
  have hpull : HasDerivAt (fun τ => -stiffness τ * ((sl τ).r - r0))
      (-rate * ((sl t).r - r0) + -stiffness t * (sl t).dr) t := hstiffness.neg.mul hlength
  have hpush : HasDerivAt (fun τ => stiffness τ * ((sl τ).r - r0))
      (rate * ((sl t).r - r0) + stiffness t * (sl t).dr) t := hstiffness.mul hlength
  have hfx : HasDerivAt (fun τ => (force τ).fx) (force t).dfx t := by
    refine (hpull.mul hsl.q.cos).congr_deriv ?_
    simp only [force, springForce_eq]
    ring
  have hfz : HasDerivAt (fun τ => (force τ).fz) (force t).dfz t := by
    refine (hpush.mul hsl.q.sin).congr_deriv ?_
    simp only [force, springForce_eq]
    ring
  exact hfx.prodMk hfz

theorem stanceForce_eq (k : LegKinematics ℝ) (r0 : ℝ) (leg : LegState ℝ) :
    stanceForce k r0 leg =
      let x := k.legSidePolar leg
      springForce (k.legStiffness x.r x.dr r0).1 0 r0 x := by
  rw [stanceForce, Scalar.real_zero]

/-- The force rates of a stance leg are the derivatives of its force, along every motion of its
segments and for every stiffness that is kept. With the rest length and the stiffness of a cycle, these
are the force and the rates that the currents of its motors track. -/
theorem stanceForce_moves {k : LegKinematics ℝ} {leg : ℝ → LegState ℝ}
    (ha : HasDerivAt (fun τ => (leg τ).a.legAngle) (leg t).a.legVelocity t)
    (hb : HasDerivAt (fun τ => (leg τ).b.legAngle) (leg t).b.legVelocity t) (stiffness r0 : ℝ) :
    let sl τ := k.legSidePolar (leg τ)
    let force τ := springForce stiffness 0 r0 (sl τ)
    (∀ τ, (force τ).fx = -stiffness * ((sl τ).r - r0) * cos (sl τ).q ∧
        (force τ).fz = stiffness * ((sl τ).r - r0) * sin (sl τ).q) ∧
      HasDerivAt (fun τ => ((force τ).fx, (force τ).fz)) ((force t).dfx, (force t).dfz) t ∧
      ∀ p i period lim, kinematics p i = k →
        (lim.restLength.apply i.slipLeg (RateLimiter.maxDelta p.springRateLimit period)).value =
          r0 →
        (k.legStiffness (sl t).r (sl t).dr r0).1 = stiffness →
        let drive := stanceLeg p i period lim (leg t)
        (drive.a, drive.b) = (forceTracker p i).control (force t) (leg t) := by
  intro sl force
  have hmoves : LegPolar.Moves sl t := LegKinematics.polar_moves ha hb
  refine ⟨fun τ => ⟨rfl, rfl⟩, springForce_moves (hasDerivAt_const t stiffness) hmoves r0, ?_⟩
  -- A cycle computes its stiffness from the length at that time, and hands it on with the rate zero.
  rintro p i period lim rfl rfl rfl
  have hforce := stanceForce_eq (kinematics p i) (lim.restLength.apply i.slipLeg
    (RateLimiter.maxDelta p.springRateLimit period)).value (leg t)
  exact congrArg (fun force => (forceTracker p i).control force (leg t)) hforce

/-- A leg that stands upright and bends, with its segments turning at different rates. -/
theorem standard_stanceForce_moves :
    let k : LegKinematics ℝ := .standard
    let leg (τ : ℝ) : LegState ℝ :=
      ⟨⟨0, 0, π / 2 - π / 3 + τ, 1⟩, ⟨0, 0, π / 2 + π / 3 + 3 * τ, 3⟩, ⟨0, 0⟩⟩
    let force τ := springForce 1000 0 0.9 (k.legSidePolar (leg τ))
    HasDerivAt (fun τ => (leg τ).a.legAngle) (leg 0).a.legVelocity 0 ∧
      HasDerivAt (fun τ => (leg τ).b.legAngle) (leg 0).b.legVelocity 0 ∧
      HasDerivAt (fun τ => ((force τ).fx, (force τ).fz)) (-800, -500 * √3) 0 := by
  intro k leg force
  have ha : HasDerivAt (fun τ => (leg τ).a.legAngle) (leg 0).a.legVelocity 0 :=
    (hasDerivAt_id 0).const_add (π / 2 - π / 3)
  have hb : HasDerivAt (fun τ => (leg τ).b.legAngle) (leg 0).b.legVelocity 0 :=
    (hasDerivAt_const_mul 3).const_add (π / 2 + π / 3)
  have hpolar : k.legSidePolar (leg 0) = ⟨π / 2, 1 / 2, 2, -√3 / 2⟩ := by
    have hangle : (π / 2 - π / 3 + (π / 2 + π / 3)) / 2 = π / 2 := by ring
    have hhalf : (π / 2 + π / 3 - (π / 2 - π / 3)) / 2 = π / 3 := by ring
    have hdr : -(1 / 2 * (√3 / 2) * 2) = -√3 / 2 := by ring
    norm_num [LegKinematics.legSidePolar, LegKinematics.polar, LegKinematics.motorPosToLegPos,
      LegKinematics.motorVelToLegVel, k, LegKinematics.standard, leg, hangle, hhalf, hdr]
  obtain ⟨-, hrates, -⟩ := stanceForce_moves (k := k) ha hb 1000 0.9
  refine ⟨ha, hb, hrates.congr_deriv ?_⟩
  simp only [hpolar, springForce_eq, cos_pi_div_two, sin_pi_div_two]
  apply Prod.ext
  · norm_num
  · ring

end BoomWalker.SlipWalk
