/-
Which gaits start again from their defaults after a request to be made safe.

Main statement: the constant force and the sine wave do, whatever went before and whatever comes
next. The other three gaits do not, even over exact arithmetic: SLIP walking goes on in its old
phase, canonical walking on its old stance leg, and hopping with its old pendulum. What they do
instead, and when it makes no difference, is said for every gait.
-/
import BoomWalker.Proofs.Gait.Forgetting
import BoomWalker.Proofs.Gait.Restart
import BoomWalker.Proofs.Scalar.Real

namespace BoomWalker

namespace GaitControl

variable {g : Gait ℝ}

theorem process_unramped (c : GaitControl g) (hramp : c.framework.startupRamp = 0)
    (snap : Snapshot ℝ) (gui : g.Input) :
    (c.process ⟨snap, gui, true⟩).2.1 =
      (g.evaluate c.params c.framework.cyclePeriod snap gui (c.wake snap)).2 := by
  have hfactor : c.framework.rampFactor c.streak = 1 := by
    unfold Framework.rampFactor
    simp [hramp]
  rw [process_enabled]
  simp [hfactor]

/-- A gait that restarts does so after one cycle, for a single cycle. -/
theorem Restarts.evaluate_eq (h : Restarts g) (p : g.Params) (first snap : Snapshot ℝ)
    (gui₁ gui : g.Input) :
    let s := (g.evaluate p 1 first gui₁ (g.onEnable p first (g.configure p g.initial))).1
    (g.evaluate p 1 snap gui (g.onEnable p snap s)).2 =
      (g.evaluate p 1 snap gui (g.onEnable p snap (g.reset p snap s))).2 := by
  intro s
  have hnew : GaitControl.new g ⟨1, 0⟩ p =
      .ok ⟨⟨1, 0⟩, p, g.configure p g.initial, false, 0, 0⟩ := by
    simp [GaitControl.new, Framework.check]
  have hrun := h ⟨1, 0⟩ p _ hnew [.process ⟨first, gui₁, true⟩] snap gui gui []
  rw [commands_cons, commands_cons, process_unramped _ rfl, process_unramped _ rfl] at hrun
  exact (List.cons.inj hrun).1

end GaitControl

/-! ## SLIP walking

In single support the stance leg may be given a bias, in double support no leg is. A gait that goes
on in double support leaves out the bias that it would have on its first leg. -/

namespace SlipWalk

section Generic

variable {α : Type} [Scalar α]

/-- What is kept after a transition. -/
theorem follow_kept (p : Params α) (i : Input α) (snap : Snapshot α) (s : State α)
    (hdetect : detect p i snap s.phase = .transition) :
    (s.follow p i snap).kept =
      ⟨s.phase.next, .capture (kinematics p i) snap s.phase.stance,
        snap.legs.map fun leg => ⟨((kinematics p i).motorSidePolar leg).r⟩⟩ := by
  simp only [State.follow, hdetect]
  rfl

/-- The current of motor A of the right leg, when it bears the load in double support. -/
theorem evaluate_of_double (p : Params α) (period : α) (snap : Snapshot α) (i : Input α)
    {s : State α} (hmode : Mode.ofSelector i.mainController = .walking)
    (hphase : s.phase = .double .left) :
    (evaluate p period snap i (onEnable snap s)).2.legs.right.a =
      (stanceLeg p i period (s.limiters.get .right) (snap.legs.get .right)).a := by
  obtain ⟨mode, phase, exit, limiters, numTransitions, numIgnored, stanceFz, flightFz, output⟩ := s
  cases hphase
  rw [evaluate_eq, enterMode_onEnable, hmode]
  rfl

/-- The same current when the right leg bears the load alone and the bias is on. -/
theorem evaluate_of_single (p : Params α) (period : α) (snap : Snapshot α) (i : Input α)
    {s : State α} (hmode : Mode.ofSelector i.mainController = .walking) (hdebug : i.debug = true)
    (hphase : s.phase = .single .right) :
    (evaluate p period snap i (onEnable snap s)).2.legs.right.a =
      (stanceLeg p i period (s.limiters.get .right) (snap.legs.get .right)).a + p.debugBias := by
  obtain ⟨mode, phase, exit, limiters, numTransitions, numIgnored, stanceFz, flightFz, output⟩ := s
  cases hphase
  rw [evaluate_eq, enterMode_onEnable, hmode]
  show (if i.debug = true ∧ Side.right = Side.right then _ else _ : LegCurrents α).a = _
  rw [if_pos ⟨hdebug, rfl⟩]
  rfl

/-- Of the limiters, a stance leg uses that of the rest length only. -/
theorem stanceLeg_congr (p : Params α) (i : Input α) (period : α) (leg : LegState α)
    {lim lim' : LegLimiters α} (h : lim.restLength = lim'.restLength) :
    (stanceLeg p i period lim leg).a = (stanceLeg p i period lim' leg).a := by
  unfold stanceLeg
  rw [h]

end Generic

/-- Touch down by hand, with a bias on the stance leg. -/
noncomputable def stepInput : Input ℝ :=
  { Input.standard with mainController := 1, manualTouchdown := true, debug := true }

theorem stepInput_mode : Mode.ofSelector stepInput.mainController = .walking := by
  show Mode.ofSelector 1 = .walking
  decide

theorem detect_stepInput (p : Params ℝ) : detect p stepInput .zero .start = .transition := by
  have hmanual : stepInput.manualTouchdown = true := rfl
  -- Both legs are in the same pose, so neither toe is ahead of the other.
  have hforward : isForwardStep p stepInput (.zero : LegState ℝ) .zero = true :=
    decide_eq_true (le_refl _)
  simp only [detect, Phase.start, hmanual, Bool.or_true, if_true]
  exact if_pos hforward

/-- The first cycle under this input is the first step. -/
theorem kept_stepInput (period : ℝ) {s : State ℝ} (hphase : s.phase = .start) :
    (evaluate .standard period .zero stepInput (onEnable .zero s)).1.kept =
      ⟨.double .left, .capture .standard .zero .right,
        .both ⟨(LegKinematics.standard.motorSidePolar .zero).r⟩⟩ := by
  obtain ⟨mode, phase, exit, limiters, numTransitions, numIgnored, stanceFz, flightFz, output⟩ := s
  cases hphase
  rw [evaluate_eq, enterMode_onEnable, stepInput_mode]
  exact follow_kept _ _ _ _ (detect_stepInput _)

theorem not_restarts : ¬ GaitControl.Restarts (SlipWalk.gait : Gait ℝ) := by
  intro h
  let s : State ℝ :=
    (evaluate .standard 1 .zero stepInput (onEnable .zero (configure .initial))).1
  let t : State ℝ := reset .standard .zero s
  have hkept : s.kept = _ := kept_stepInput 1 rfl
  have hphase : s.phase = .double .left := congrArg Kept.phase hkept
  have hrest : (s.limiters.get .right).restLength = (t.limiters.get .right).restLength :=
    congrArg (fun k => k.restLength.right) hkept
  have hresumed := evaluate_of_double .standard 1 .zero stepInput stepInput_mode hphase
  have hreset := evaluate_of_single (s := t) .standard 1 .zero stepInput stepInput_mode rfl rfl
  have hsame := congrArg (fun c => c.legs.right.a)
    (GaitControl.Restarts.evaluate_eq h Params.standard .zero .zero stepInput stepInput)
  rw [stanceLeg_congr _ _ _ _ hrest] at hresumed
  have hbias := hresumed.symm.trans (hsame.trans hreset)
  simp [Params.standard] at hbias

end SlipWalk

/-! ## Canonical walking

Where both legs are in the same pose, they differ in the velocities at which they are tracked, which
are those of their roles. -/

namespace CanonWalk

/-- Damp the legs about the velocities of the walking function. -/
noncomputable def walkInput : Input ℝ := ⟨1, 0, 1, 0, 0⟩

/-- The phase is held at the start of a step. -/
noncomputable def heldParams : Params ℝ := { Params.standard with tauMin := 0, tauMax := 0 }

/-- The torso turns, and the legs with it. -/
noncomputable def turning : Snapshot ℝ := ⟨.both .zero, ⟨0, 1, 0, 0⟩⟩

theorem walkInput_mode : Mode.ofSelector walkInput.mainController = .walking := by
  show Mode.ofSelector 1 = .walking
  decide

theorem eval_zero (c : Coeffs ℝ) : c.eval 0 = c.a1 + c.a5 := by
  simp [Coeffs.eval]

theorem slope_zero (c : Coeffs ℝ) : c.slope 0 = c.a2 * c.a3 - c.a4 * c.a1 := by
  simp [Coeffs.slope]
  ring

theorem thetaStart_eq : (thetaStart : ℝ) = 3.56864235 := by
  unfold thetaStart walkingOutputs Outputs.map
  simp only [Scalar.real_zero, eval_zero]
  norm_num [walkingCoeffs]

theorem thetaSpan_eq : (thetaSpan : ℝ) = -0.48946167 := by
  unfold thetaSpan
  rw [thetaStart_eq]
  unfold walkingOutputs Outputs.map
  simp only [Scalar.real_zero, eval_zero]
  norm_num [walkingCoeffs]

/-- Angle and rate of either leg, should it be in stance. -/
theorem stanceAngle_turning (side : Side) :
    (Canonical.ofSnapshot turning side).stanceAngle = (-Real.pi, 1) := by
  cases side with
  | left =>
    simp [Canonical.ofSnapshot, Canonical.stanceAngle, turning, toCanonical, torsoAngle,
      nominalPitch, Sided.both, Sided.get, LegState.zero, HalfState.zero, Side.opposite]
    ring
  | right =>
    simp [Canonical.ofSnapshot, Canonical.stanceAngle, turning, toCanonical, torsoAngle,
      nominalPitch, Sided.both, Sided.get, LegState.zero, HalfState.zero, Side.opposite]
    ring

theorem one_le_rawTau_turning (side : Side) : 1 ≤ rawTau turning side := by
  have hpi := Real.pi_pos
  unfold rawTau
  rw [stanceAngle_turning, thetaStart_eq, thetaSpan_eq]
  simp only [Scalar.real_div, Scalar.real_sub]
  rw [le_div_iff_of_neg (by norm_num)]
  linarith

theorem stepStance_turning (side : Side) : stepStance turning side = side.opposite := by
  have hstep := one_le_rawTau_turning side
  unfold stepStance
  simp only [Scalar.real_le, Scalar.real_one, if_pos hstep]

theorem boundedTau_turning (side : Side) : boundedTau heldParams turning side = 0 := by
  have hpos : 0 < rawTau turning side := by linarith [one_le_rawTau_turning side]
  simp [boundedTau, Scalar.clamp, heldParams, hpos]

theorem tauRate_turning (side : Side) : tauRate turning side = -1 / 0.48946167 := by
  unfold tauRate
  rw [stanceAngle_turning, thetaSpan_eq]
  norm_num

theorem stance_turning (s : State ℝ) :
    (evaluate heldParams 1 turning walkInput s).1.stance = s.stance.opposite := by
  simp only [evaluate, State.advance, walkInput_mode, stepStance_turning]

/-- The current of motor A of the left leg is the velocity that its role asks for. -/
theorem evaluate_turning (s : State ℝ) :
    (evaluate heldParams 1 turning walkInput s).2.legs.left.a =
      let targets := walkingTargets walkingCoeffs
        (.ofSnapshot turning s.stance.opposite) 0 (-1 / 0.48946167)
      if s.stance = .right then targets.1.velA else targets.2.velA := by
  simp only [evaluate, State.advance, State.targets, walkInput_mode, stepStance_turning,
    boundedTau_turning, tauRate_turning]
  cases s.stance with
  | left =>
    simp [trackLeg, Pd.track, walkInput, turning, Sided.get, Sided.both, LegState.zero,
      HalfState.zero, Sided.ofFn, Side.opposite]
  | right =>
    simp [trackLeg, Pd.track, walkInput, turning, Sided.get, Sided.both, LegState.zero,
      HalfState.zero, Sided.ofFn, Side.opposite]

theorem evaluate_turning_ne {s t : State ℝ} (hs : s.stance = .right) (ht : t.stance = .left) :
    (evaluate heldParams 1 turning walkInput s).2.legs.left.a ≠
      (evaluate heldParams 1 turning walkInput t).2.legs.left.a := by
  rw [evaluate_turning, evaluate_turning, hs, ht]
  simp [walkingTargets, Canonical.targets, walkingSlopes, Outputs.map, slope_zero,
    outputsToMotors, Outputs.dot, motorWeights, walkingCoeffs, Canonical.ofSnapshot, turning]
  norm_num

theorem not_restarts : ¬ GaitControl.Restarts (CanonWalk.gait : Gait ℝ) := by
  intro h
  let s : State ℝ := (evaluate heldParams 1 turning walkInput
    { (State.initial : State ℝ) with limiters := seedLimiters turning }).1
  have hstance : s.stance = .right := stance_turning _
  have hsame := congrArg (fun c => c.legs.left.a)
    (GaitControl.Restarts.evaluate_eq h heldParams turning turning walkInput walkInput)
  exact evaluate_turning_ne (s := { s with limiters := seedLimiters turning }) hstance rfl hsame

end CanonWalk

/-! ## Hopping

A pendulum that was seeded in flight for a longer leg is past the rest length of a shorter one,
where it gives no force. One at its defaults gives a force at once. -/

/-- A step of no length leaves the pendulum where it is. -/
theorem SlipModel.step_zero (m : SlipModel ℝ) (x : SlipState ℝ) : m.step x 0 = x := by
  simp [SlipModel.step, SlipState.add, SlipState.scale, SlipState.zipWith]

namespace LegHop

/-- The current of motor A of the left leg in stance. -/
theorem evaluate_of_stance {α : Type} [Scalar α] (p : Params α) (period : α) (snap : Snapshot α)
    (i : Input α) (s : State α)
    (hphase : Phase.select snap.position.height i.slipLeg i.debug1 = .stance) :
    (evaluate p period snap i s).2.legs.left.a =
      (hold (stancePd i) (deflectionTargets p i snap.legs.left (stanceForce p i s.slip).2)
        snap.legs.left).1 := by
  simp only [evaluate, hphase]
  rfl

theorem slip_of_flight {α : Type} [Scalar α] (p : Params α) (period : α) (snap : Snapshot α)
    (i : Input α) (s : State α)
    (hphase : Phase.select snap.position.height i.slipLeg i.debug1 = .flight) :
    (evaluate p period snap i s).1.slip = touchdown i := by
  simp only [evaluate, hphase]
  rfl

/-- The pendulum does not move. -/
noncomputable def stillParams : Params ℝ := { Params.standard with slipStep := 0 }

noncomputable def flightInput : Input ℝ := { Input.standard with slipLeg := 2 }

/-- Follow the force of the pendulum. -/
noncomputable def stanceInput : Input ℝ := { Input.standard with slipLeg := 1, slipForce := true }

noncomputable def aloft : Snapshot ℝ := ⟨.both .zero, ⟨0, 0, 0, 2⟩⟩

/-- On the ground, with the motors a quarter turn from the legs. -/
noncomputable def landed : Snapshot ℝ :=
  ⟨.both ⟨⟨Scalar.halfPi, 0, 0, 0⟩, ⟨Scalar.halfPi, 0, 0, 0⟩, ⟨0, 0⟩⟩, .zero⟩

theorem aloft_phase :
    Phase.select aloft.position.height flightInput.slipLeg flightInput.debug1 = .flight := by
  simp [Phase.select, aloft, flightInput, Input.standard]

theorem landed_phase :
    Phase.select landed.position.height stanceInput.slipLeg stanceInput.debug1 = .stance := by
  simp [Phase.select, landed, BodyPosition.zero, stanceInput]

/-- Past the rest length there is no force. -/
theorem force_flightInput :
    (stanceForce stillParams stanceInput (touchdown flightInput)).2 = (0, 0) := by
  simp [stanceForce, stanceInput, Input.standard, touchdown, flightInput]

theorem force_standard :
    (stanceForce stillParams stanceInput (touchdown .standard)).2 = (0, 1500) := by
  simp [stanceForce, stanceInput, Input.standard, touchdown, stillParams, SlipModel.step_zero,
    SlipModel.radialForce, model, SlipModel.onSite]
  norm_num

/-- The current in stance under a vertical force. -/
theorem hold_landed (fz : ℝ) :
    (hold (stancePd stanceInput)
      (deflectionTargets stillParams stanceInput landed.legs.left (0, fz)) landed.legs.left).1 =
      600 * (fz / 3200 - Real.pi / 2) := by
  simp [hold, stancePd, stanceInput, Input.standard, deflectionTargets, Pd.track, landed,
    Sided.both, stillParams, Params.standard, LegKinematics.standard, Mat2.transpose, Mat2.apply]
  ring

theorem not_restarts : ¬ GaitControl.Restarts (LegHop.gait : Gait ℝ) := by
  intro h
  let s : State ℝ := (evaluate stillParams 1 aloft flightInput
    (LegHop.gait.configure stillParams LegHop.gait.initial)).1
  have hslip : s.slip = touchdown flightInput := slip_of_flight _ _ _ _ _ aloft_phase
  have hresumed := evaluate_of_stance stillParams 1 landed stanceInput s landed_phase
  have hreset := evaluate_of_stance stillParams 1 landed stanceInput (reset s) landed_phase
  have hseeded : (reset s).slip = touchdown .standard := rfl
  rw [hslip, force_flightInput, hold_landed] at hresumed
  rw [hseeded, force_standard, hold_landed] at hreset
  have hsame := congrArg (fun c => c.legs.left.a)
    (GaitControl.Restarts.evaluate_eq h stillParams aloft landed flightInput stanceInput)
  have hcurrents := hresumed.symm.trans (hsame.trans hreset)
  linarith

end LegHop

/-! ## All gaits -/

namespace GaitControl

/-- A gait in which no cycle uses what enabling keeps restarts. -/
theorem restarts_of_keeps {α : Type} [Scalar α] {g : Gait α} (m : g.Memory)
    (hkeeps : ∀ snap gui, m.keptUse snap gui = .keeps) : Restarts g := by
  have hunread : ∀ is, m.unread is = true := by
    intro is
    induction is with
    | nil => rfl
    | cons i is ih =>
      unfold Gait.Memory.unread
      rw [hkeeps i.1 i.2]
      exact ih
  intro f p c₀ _ past snap gui gui' is
  exact commands_makeSafe_of_forgotten m (c₀.run past).1 snap gui gui' is (Or.inr (hunread _))

theorem restarts_iff (n : GaitName) : Restarts (n.gaitOver ℝ) ↔ n = .constForce ∨ n = .sinWave := by
  constructor
  · intro h
    cases n with
    | slipWalk => exact absurd h SlipWalk.not_restarts
    | canonWalk => exact absurd h CanonWalk.not_restarts
    | legHop => exact absurd h LegHop.not_restarts
    | constForce => exact Or.inl rfl
    | sinWave => exact Or.inr rfl
  · rintro (rfl | rfl)
    · exact restarts_of_keeps ConstForce.memory fun _ _ => rfl
    · exact restarts_of_keeps SinWave.memory fun _ _ => rfl

/-- After a request to be made safe, a gait goes on as after a disabled cycle that does not reset
what enabling keeps. The commands are those after the disabled cycle itself if a reset makes no
difference to what is kept, or if no cycle reads it before one overwrites it. Two gaits restart
from every state. -/
theorem makeSafe_resumes (n : GaitName) :
    (∀ (α : Type) [Scalar α] (c : GaitControl (n.gaitOver α)) (snap : Snapshot α)
      (gui gui' : (n.gaitOver α).Input) (is : List (Snapshot α × (n.gaitOver α).Input)),
      c.makeSafe.commands (cycles ((snap, gui) :: is)) =
        ((c.process ⟨snap, gui', false⟩).1.withKept (n.memory α)
          ((n.memory α).kept c.gait)).commands (cycles ((snap, gui) :: is)) ∧
      ((n.memory α).kept c.gait = (n.memory α).kept ((n.gaitOver α).reset c.params snap c.gait) ∨
          (n.memory α).unread ((snap, gui) :: is) = true →
        c.makeSafe.commands (cycles ((snap, gui) :: is)) =
          (c.process ⟨snap, gui', false⟩).1.commands (cycles ((snap, gui) :: is)))) ∧
    (Restarts (n.gaitOver ℝ) ↔ n = .constForce ∨ n = .sinWave) := by
  refine ⟨fun α _ c snap gui gui' is => ⟨?_, ?_⟩, restarts_iff n⟩
  · exact commands_makeSafe (n.memory α) c snap gui gui' is
  · exact commands_makeSafe_of_forgotten (n.memory α) c snap gui gui' is

/-- SLIP walking after its first step. -/
noncomputable def midStep : GaitControl (GaitName.slipWalk.gaitOver ℝ) :=
  ((GaitControl.unconfigured _).process ⟨.zero, SlipWalk.stepInput, true⟩).1

/-- SLIP walking that is made safe in double support, and then made to stand before it walks on. A
reset would take it back to single support, but standing does so as well. -/
theorem slipWalk_standing_restarts :
    let m := GaitName.slipWalk.memory ℝ
    let s : SlipWalk.State ℝ := midStep.gait
    let s' : SlipWalk.State ℝ :=
      (GaitName.slipWalk.gaitOver ℝ).reset midStep.params LegHop.landed s
    let is := [(LegHop.landed, SlipWalk.Input.standard), (.zero, SlipWalk.stepInput)]
    s.phase = .double .left ∧ s'.phase = .single .right ∧ m.kept s ≠ m.kept s' ∧
      m.unread is = true ∧
      midStep.makeSafe.commands (cycles is) =
        (midStep.process ⟨LegHop.landed, SlipWalk.stepInput, false⟩).1.commands (cycles is) := by
  intro m s s' is
  have hphase : s.phase = .double .left :=
    congrArg SlipWalk.Kept.phase (SlipWalk.kept_stepInput _ rfl)
  have hreset : s'.phase = .single .right := rfl
  have hkept : m.kept s ≠ m.kept s' := by
    intro hsame
    cases hphase.symm.trans ((congrArg SlipWalk.Kept.phase hsame).trans hreset)
  have hunread : m.unread is = true := rfl
  exact ⟨hphase, hreset, hkept, hunread,
    ((makeSafe_resumes .slipWalk).1 ℝ midStep LegHop.landed SlipWalk.Input.standard
      SlipWalk.stepInput [(.zero, SlipWalk.stepInput)]).2 (Or.inr hunread)⟩

/-- Not every gait restarts. -/
theorem not_forall_restarts : ¬ ∀ n : GaitName, Restarts (n.gaitOver ℝ) :=
  fun h => SlipWalk.not_restarts (h .slipWalk)

end GaitControl

end BoomWalker
