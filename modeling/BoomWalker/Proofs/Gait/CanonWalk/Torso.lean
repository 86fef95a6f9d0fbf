/-
Canonical walking does not depend on where the pitch of the torso is measured from.

Main statement: over exact arithmetic, let every snapshot of a run report the torso pitched by a
constant angle and the motors turned back by as much, so that the legs stay where they are. Then
every cycle puts out the same command and the same report. The canonical configuration takes the
two changes out again, and the conversion back to the rig hands them on to the motor targets. So the
limiters are displaced like the motors that they are seeded from, and this is kept by every event
(`run_pitch`). Before the gait was ever enabled the limiters are not displaced, but then nothing
reads them (`run_withLimiters`).
-/
import BoomWalker.Proofs.Gait.CanonWalk.Cycle
import BoomWalker.Proofs.Gait.Resuming
import BoomWalker.Proofs.Motion.RateLimiter

namespace BoomWalker

/-! ## Pitching the torso about legs that stay where they are -/

/-- A motor is measured from the torso. -/
noncomputable def LegState.pitch (δ : ℝ) (leg : LegState ℝ) : LegState ℝ :=
  { leg with
    a := { leg.a with motorAngle := leg.a.motorAngle - δ }
    b := { leg.b with motorAngle := leg.b.motorAngle - δ } }

/-- The torso is pitched by an angle, and all four motors are turned back by it. -/
noncomputable def Snapshot.pitch (δ : ℝ) (snap : Snapshot ℝ) : Snapshot ℝ where
  legs := snap.legs.map (LegState.pitch δ)
  position := { snap.position with bodyPitch := snap.position.bodyPitch + δ }

@[simp] theorem Snapshot.get_legs_pitch (δ : ℝ) (snap : Snapshot ℝ) (side : Side) :
    (snap.pitch δ).legs.get side = (snap.legs.get side).pitch δ :=
  Sided.get_map _ _ side

namespace CanonWalk

noncomputable def MotorTargets.pitch (δ : ℝ) (t : MotorTargets ℝ) : MotorTargets ℝ :=
  { t with posA := t.posA - δ, posB := t.posB - δ }

noncomputable def MotorLimiters.pitch (δ : ℝ) (l : MotorLimiters ℝ) : MotorLimiters ℝ :=
  ⟨⟨l.a.value - δ⟩, ⟨l.b.value - δ⟩⟩

/-- Of the state only the limiters are measured from the torso. -/
noncomputable def State.pitch (δ : ℝ) (s : State ℝ) : State ℝ :=
  { s with limiters := s.limiters.map (MotorLimiters.pitch δ) }

@[simp] theorem State.get_limiters_pitch (δ : ℝ) (s : State ℝ) (side : Side) :
    (s.pitch δ).limiters.get side = (s.limiters.get side).pitch δ :=
  Sided.get_map _ _ side

variable (δ : ℝ)

/-! ## The canonical configuration -/

section Configuration

variable (snap : Snapshot ℝ) (stance : Side)

theorem torsoAngle_pitch : torsoAngle (snap.pitch δ) = torsoAngle snap + δ := by
  simp only [torsoAngle, Snapshot.pitch, Scalar.real_sub]
  ring

theorem toCanonical_pitch (torso q : ℝ) :
    toCanonical (torso + δ) (q - δ) = toCanonical torso q := by
  simp only [toCanonical, Scalar.real_add]
  ring

theorem toRig_pitch (torso q : ℝ) : toRig (torso + δ) q = toRig torso q - δ := by
  simp only [toRig, Scalar.real_sub]
  ring

/-- Only the torso angle is seen to change. -/
theorem ofSnapshot_pitch :
    Canonical.ofSnapshot (snap.pitch δ) stance =
      { Canonical.ofSnapshot snap stance with torso := torsoAngle snap + δ } := by
  simp only [Canonical.ofSnapshot, Snapshot.get_legs_pitch, torsoAngle_pitch, LegState.pitch,
    toCanonical_pitch]
  rfl

theorem rawTau_pitch : rawTau (snap.pitch δ) stance = rawTau snap stance := by
  simp only [rawTau, ofSnapshot_pitch]
  rfl

theorem boundedTau_pitch (p : Params ℝ) :
    boundedTau p (snap.pitch δ) stance = boundedTau p snap stance := by
  simp only [boundedTau, rawTau_pitch]

theorem tauRate_pitch : tauRate (snap.pitch δ) stance = tauRate snap stance := by
  simp only [tauRate, ofSnapshot_pitch]
  rfl

theorem stepStance_pitch : stepStance (snap.pitch δ) stance = stepStance snap stance := by
  simp only [stepStance, rawTau_pitch]

end Configuration

/-! ## Targets and limiters -/

theorem targets_pitch (canon : Canonical ℝ) :
    Canonical.targets { canon with torso := canon.torso + δ } =
      (canon.targets.1.pitch δ, canon.targets.2.pitch δ) := by
  simp only [Canonical.targets, toRig_pitch, MotorTargets.pitch]

theorem standingTargets_pitch (snap : Snapshot ℝ) :
    standingTargets (snap.pitch δ) = (standingTargets snap).map (MotorTargets.pitch δ) := by
  simp only [standingTargets, torsoAngle_pitch, toRig_pitch]
  rfl

theorem walkingTargets_pitch (snap : Snapshot ℝ) (stance : Side) (tau dtau : ℝ) :
    let t := walkingTargets walkingCoeffs (.ofSnapshot snap stance) tau dtau
    walkingTargets walkingCoeffs (.ofSnapshot (snap.pitch δ) stance) tau dtau =
      (t.1.pitch δ, t.2.pitch δ) := by
  intro t
  rw [ofSnapshot_pitch]
  exact targets_pitch δ
    { Canonical.ofSnapshot snap stance with
      motors := outputsToMotors (walkingOutputs walkingCoeffs tau)
      motorRates := outputsToMotors ((walkingSlopes walkingCoeffs tau).map (· * dtau)) }

theorem move_pitch (l : MotorLimiters ℝ) (t : MotorTargets ℝ) (bound : ℝ) :
    (l.pitch δ).move (t.pitch δ) bound = (l.move t bound).pitch δ := by
  simp only [MotorLimiters.move, MotorLimiters.pitch, MotorTargets.pitch, RateLimiter.apply_sub]

/-- Targets and motors are displaced alike, so that the currents stay as they are. -/
theorem trackLeg_pitch (p : Params ℝ) (i : Input ℝ) (l : MotorLimiters ℝ) (t : MotorTargets ℝ)
    (leg : LegState ℝ) :
    trackLeg p i (l.pitch δ) (t.pitch δ) (leg.pitch δ) = trackLeg p i l t leg := by
  simp only [trackLeg, Pd.track, MotorLimiters.pitch, MotorTargets.pitch, LegState.pitch,
    Scalar.real_sub, sub_sub_sub_cancel_right]

/-! ## One cycle -/

section Cycle

variable (p : Params ℝ) (period : ℝ) (snap : Snapshot ℝ) (i : Input ℝ) (s : State ℝ)

theorem advance_pitch (mode : Mode) :
    (s.pitch δ).advance p (snap.pitch δ) mode = (s.advance p snap mode).pitch δ := by
  cases mode with
  | standing => rfl
  | stopping => rfl
  | walking =>
    simp only [State.advance, State.pitch, stepStance_pitch, boundedTau_pitch, tauRate_pitch]

theorem stateTargets_pitch :
    (s.pitch δ).targets (snap.pitch δ) = (s.targets snap).map (MotorTargets.pitch δ) := by
  apply Sided.ext_get
  intro side
  rw [Sided.get_map]
  simp only [State.targets, State.pitch, standingTargets_pitch, walkingTargets_pitch]
  cases s.mode with
  | standing => exact Sided.get_map _ _ side
  | stopping => exact Sided.get_map _ _ side
  | walking =>
    simp only [Sided.get_ofFn]
    split
    · rfl
    · rfl

theorem evaluate_targets_pitch (side : Side) :
    ((evaluate p period (snap.pitch δ) i (s.pitch δ)).1.targets (snap.pitch δ)).get side =
      (((evaluate p period snap i s).1.targets snap).get side).pitch δ := by
  have htargets := stateTargets_pitch δ snap (s.advance p snap (Mode.ofSelector i.mainController))
  rw [← advance_pitch] at htargets
  exact (congrArg (fun t => t.get side) htargets).trans (Sided.get_map _ _ side)

theorem evaluate_limiters_pitch (side : Side) :
    (evaluate p period (snap.pitch δ) i (s.pitch δ)).1.limiters.get side =
      ((evaluate p period snap i s).1.limiters.get side).pitch δ := by
  rw [evaluate_limiters, evaluate_limiters, State.get_limiters_pitch, evaluate_targets_pitch,
    move_pitch]

theorem evaluate_legs_pitch (side : Side) :
    (evaluate p period (snap.pitch δ) i (s.pitch δ)).2.legs.get side =
      (evaluate p period snap i s).2.legs.get side := by
  rw [evaluate_legs, evaluate_legs, evaluate_limiters_pitch, evaluate_targets_pitch,
    Snapshot.get_legs_pitch, trackLeg_pitch]

/-- A cycle puts out what it would put out if the torso were not pitched, and leaves the limiters
displaced. -/
theorem evaluate_pitch :
    evaluate p period (snap.pitch δ) i (s.pitch δ) =
      ((evaluate p period snap i s).1.pitch δ, (evaluate p period snap i s).2) := by
  have hlimiters : (evaluate p period (snap.pitch δ) i (s.pitch δ)).1.limiters =
      ((evaluate p period snap i s).1.pitch δ).limiters := by
    apply Sided.ext_get
    intro side
    rw [evaluate_limiters_pitch, State.get_limiters_pitch]
  have houtput : (evaluate p period (snap.pitch δ) i (s.pitch δ)).2 =
      (evaluate p period snap i s).2 :=
    congrArg (fun legs => (⟨legs, .run⟩ : Command ℝ))
      (Sided.ext_get (evaluate_legs_pitch δ p period snap i s))
  -- The rest of the state is where the gait has advanced to.
  have hstate : (evaluate p period (snap.pitch δ) i (s.pitch δ)).1 =
      (evaluate p period snap i s).1.pitch δ := by
    rw [evaluate_advance, advance_pitch, hlimiters]
    exact congrArg (fun output => { State.pitch δ (evaluate p period snap i s).1 with output })
      houtput
  exact Prod.ext hstate houtput

end Cycle

/-! ## Runs -/

/-- What happens to a controller, with the torso pitched in every snapshot. -/
noncomputable def pitchEvent :
    GaitControl.Event (gait : Gait ℝ) → GaitControl.Event (gait : Gait ℝ)
  | .process ⟨snap, i, enabled⟩ => .process ⟨snap.pitch δ, i, enabled⟩
  | .makeSafe => .makeSafe

noncomputable def withLimiters (limiters : Sided (MotorLimiters ℝ))
    (c : GaitControl (gait : Gait ℝ)) : GaitControl (gait : Gait ℝ) :=
  { c with gait := { (c.gait : State ℝ) with limiters } }

/-- A controller that agrees with another but for its limiters, which are displaced while the gait
is enabled. -/
inductive Displaced (c : GaitControl (gait : Gait ℝ)) : GaitControl (gait : Gait ℝ) → Prop where
  | intro (limiters : Sided (MotorLimiters ℝ))
      (hlimiters : c.enabled = true →
        limiters = (State.limiters c.gait).map (MotorLimiters.pitch δ)) :
      Displaced c (withLimiters limiters c)

section Runs

variable {δ} {c d : GaitControl (gait : Gait ℝ)}

/-- The coming enabled cycle finds the limiters displaced, whether it seeds them or not. -/
theorem Displaced.wake (h : Displaced δ c d) (snap : Snapshot ℝ) :
    d.wake (snap.pitch δ) = State.pitch δ (c.wake snap) := by
  obtain ⟨limiters, hlimiters⟩ := h
  unfold GaitControl.wake
  cases hon : c.enabled with
  | false =>
    -- Whatever the limiters were, they are seeded from motors that are turned back.
    simp only [withLimiters, hon, Bool.false_eq_true, if_false]
    rfl
  | true =>
    simp only [withLimiters, hon, hlimiters hon, if_true]
    rfl

/-- An enabled cycle answers alike, and leaves the limiters displaced. -/
theorem Displaced.process_enabled (h : Displaced δ c d) (snap : Snapshot ℝ) (i : Input ℝ) :
    let answer := c.process ⟨snap, i, true⟩
    d.process ⟨snap.pitch δ, i, true⟩ =
      (withLimiters ((State.limiters answer.1.gait).map (MotorLimiters.pitch δ)) answer.1,
        answer.2) := by
  intro answer
  have hanswer : answer = _ := GaitControl.process_enabled c snap i
  have hwake := h.wake snap
  obtain ⟨limiters, -⟩ := h
  have hevaluate : gait.evaluate (withLimiters limiters c).params
      (withLimiters limiters c).framework.cyclePeriod (snap.pitch δ) i
      (State.pitch δ (c.wake snap)) = _ :=
    evaluate_pitch δ c.params c.framework.cyclePeriod snap i (c.wake snap)
  refine (GaitControl.process_enabled (withLimiters limiters c) (snap.pitch δ) i).trans ?_
  rw [hwake, hevaluate, hanswer]
  rfl

/-- Every event keeps the limiters displaced, and puts out what it would put out if the torso were
not pitched. -/
theorem Displaced.step (h : Displaced δ c d) (e : GaitControl.Event (gait : Gait ℝ)) :
    Displaced δ (c.step e).1 (d.step (pitchEvent δ e)).1 ∧
      (d.step (pitchEvent δ e)).2 = (c.step e).2 := by
  rcases e with ⟨snap, i, _ | _⟩ | _
  · obtain ⟨limiters, -⟩ := h
    exact ⟨.intro (seedLimiters (snap.pitch δ)) fun _ => rfl, rfl⟩
  · have hprocess := h.process_enabled snap i
    simp only [GaitControl.step, pitchEvent, hprocess, and_true]
    exact .intro _ fun _ => rfl
  · obtain ⟨limiters, -⟩ := h
    exact ⟨.intro limiters fun hon => absurd hon Bool.false_ne_true, rfl⟩

theorem Displaced.run (h : Displaced δ c d) (es : List (GaitControl.Event (gait : Gait ℝ))) :
    (d.run (es.map (pitchEvent δ))).2 = (c.run es).2 := by
  induction es generalizing c d with
  | nil => rfl
  | cons e es ih =>
    obtain ⟨hnext, hout⟩ := h.step e
    simp only [List.map_cons, GaitControl.run, hout, ih hnext]

end Runs

/-- Over any events of a new controller, pitching the torso by a constant angle about its legs
changes neither a command nor a report. -/
theorem run_pitched {c₀ : GaitControl (gait : Gait ℝ)} (hc₀ : c₀.Created)
    (es : List (GaitControl.Event (gait : Gait ℝ))) :
    (c₀.run (es.map (pitchEvent δ))).2 = (c₀.run es).2 := by
  -- The first limiters are not displaced, but no cycle reads them before it has seeded them.
  have hdisplaced : Displaced δ c₀ c₀ := by
    refine .intro (State.limiters c₀.gait) fun hon => ?_
    rw [hc₀.disabled.1] at hon
    cases hon
  exact hdisplaced.run es

/-- Standing, walking and stopping, with a disabled cycle and a request to be made safe in
between. -/
theorem unconfigured_run_pitched :
    let c₀ : GaitControl (gait : Gait ℝ) := .unconfigured gait
    let cycle (selector : UInt8) (enabled : Bool) : GaitControl.Event (gait : Gait ℝ) :=
      .process ⟨turning, { walkInput with mainController := selector }, enabled⟩
    let es := [cycle 0 true, cycle 1 true, .makeSafe, cycle 1 true, cycle 0 false, cycle 1 true,
      cycle 2 true]
    c₀.Created ∧ (c₀.run (es.map (pitchEvent 1))).2 = (c₀.run es).2 := by
  intro c₀ cycle es
  exact ⟨.unconfigured, run_pitched 1 .unconfigured es⟩

end CanonWalk
end BoomWalker
