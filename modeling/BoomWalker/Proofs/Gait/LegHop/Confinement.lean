/-
Where the force that a hopping leg is to produce can be seen.

Main statement: two runs whose operators agree on everything but the stance force go through the
same phases and count the same touchdowns. They differ in the motor currents of the left leg in
stance, and nowhere else. The force is set by the constant and the pendulum's inputs, the stiffness
of the leg springs, the stance gains and the choice between them; the pendulum may drift apart in
the two runs for as long as they last.
-/
import BoomWalker.Gait.LegHop
import BoomWalker.Proofs.Gait.Runs
import Mathlib.Data.List.Forall2

namespace BoomWalker.LegHop

variable {α : Type}

/-! ## What has to agree -/

/-- Inputs that agree on all but the stance force and what is traced. -/
structure Input.Agrees (i j : Input α) : Prop where
  slipLeg : i.slipLeg = j.slipLeg
  debug1 : i.debug1 = j.debug1
  flightKp : i.flightKp = j.flightKp
  flightKd : i.flightKd = j.flightKd
  hipKp : i.hipKp = j.hipKp
  hipKd : i.hipKd = j.hipKd
  constantHip : i.constantHip = j.constantHip
  advancedHip : i.advancedHip = j.advancedHip
  hipAngle : i.hipAngle = j.hipAngle
  leftHipTarget : i.leftHipTarget = j.leftHipTarget
  rightHipTarget : i.rightHipTarget = j.rightHipTarget

/-- States that agree on the phase and on what is counted of it. -/
structure State.Agrees (s t : State α) : Prop where
  phase : s.phase = t.phase
  numTouchdowns : s.numTouchdowns = t.numTouchdowns

/-- Commands that differ at most in the motor currents of the left leg, and only in stance. -/
structure CommandAgrees (phase : Phase) (c d : Command α) : Prop where
  right : c.legs.right = d.legs.right
  leftHip : c.legs.left.hip = d.legs.left.hip
  code : c.code = d.code
  flight : phase = .flight → c = d

theorem CommandAgrees.refl (phase : Phase) (c : Command α) : CommandAgrees phase c c :=
  ⟨rfl, rfl, rfl, fun _ => rfl⟩

variable [Scalar α]

theorem CommandAgrees.scale {phase : Phase} {c d : Command α} (h : CommandAgrees phase c d)
    (factor : α) : CommandAgrees phase (c.scale factor) (d.scale factor) where
  right := congrArg (LegCurrents.map (· * factor)) h.right
  leftHip := congrArg (· * factor) h.leftHip
  code := h.code
  flight hflight := congrArg (Command.scale · factor) (h.flight hflight)

/-! ## One cycle of the gait -/

section Cycle

variable {i j : Input α} (h : i.Agrees j)

include h

theorem Input.Agrees.select (height : α) :
    Phase.select height i.slipLeg i.debug1 = Phase.select height j.slipLeg j.debug1 := by
  rw [h.slipLeg, h.debug1]

omit [Scalar α] in
theorem Input.Agrees.flightPd : flightPd i = flightPd j := by
  simp only [LegHop.flightPd, h.flightKp, h.flightKd]

theorem Input.Agrees.hipCurrents (legs : Sided (LegState α)) :
    hipCurrents i legs = hipCurrents j legs := by
  have htargets : hipTargets i = hipTargets j := by
    simp only [hipTargets, h.constantHip, h.advancedHip, h.hipAngle, h.leftHipTarget,
      h.rightHipTarget]
  simp only [LegHop.hipCurrents, htargets, h.hipKp, h.hipKd]

/-- The right leg follows the measured left leg in stance and is held upright in flight; the force
reaches it in neither. -/
theorem Input.Agrees.rightCurrents (p : Params α) (legs : Sided (LegState α)) (f f' : α × α)
    (phase : Phase) :
    (legCurrents p i legs f phase).right = (legCurrents p j legs f' phase).right := by
  cases phase with
  | stance => simp only [legCurrents, h.flightPd]
  | flight => simp only [legCurrents, h.flightPd, h.slipLeg]

theorem Input.Agrees.flightCurrents (p : Params α) (legs : Sided (LegState α)) (f f' : α × α) :
    legCurrents p i legs f .flight = legCurrents p j legs f' .flight := by
  simp only [legCurrents, h.flightPd, h.slipLeg]

variable (p : Params α) (period : α) (snap : Snapshot α) {s t : State α} (hs : s.Agrees t)

include hs

/-- The phase is selected without the force, and so touchdowns are counted without it. -/
theorem Input.Agrees.evaluate_state :
    (evaluate p period snap i s).1.Agrees (evaluate p period snap j t).1 := by
  have hphase := h.select snap.position.height
  refine ⟨hphase, ?_⟩
  simp only [evaluate, hphase, hs.phase, hs.numTouchdowns]

omit hs in
theorem Input.Agrees.evaluate_command :
    CommandAgrees (evaluate p period snap i s).1.phase (evaluate p period snap i s).2
      (evaluate p period snap j t).2 := by
  have hphase := h.select snap.position.height
  have hhips := h.hipCurrents snap.legs
  refine ⟨?_, ?_, rfl, ?_⟩
  · have hright := h.rightCurrents p snap.legs
      (advance p i s.slip (Phase.select snap.position.height i.slipLeg i.debug1)).2
      (advance p j t.slip (Phase.select snap.position.height j.slipLeg j.debug1)).2
      (Phase.select snap.position.height i.slipLeg i.debug1)
    simp only [hphase] at hright
    simp only [evaluate, Sided.ofFn, Sided.get, hphase, hright, hhips]
  · simp only [evaluate, Sided.ofFn, hhips]
  · intro hflight
    have hflight : Phase.select snap.position.height i.slipLeg i.debug1 = .flight := hflight
    simp only [evaluate, ← hphase, hflight, hhips,
      h.flightCurrents p snap.legs _ (advance p j t.slip .flight).2]

end Cycle

/-! ## Runs -/

/-- Events that differ at most in what the operator asks of the stance force. -/
inductive EventAgrees : GaitControl.Event (gait : Gait α) → GaitControl.Event (gait : Gait α) → Prop
  | process (snap : Snapshot α) {i j : Input α} (h : i.Agrees j) (enabled : Bool) :
    EventAgrees (.process ⟨snap, i, enabled⟩) (.process ⟨snap, j, enabled⟩)
  | makeSafe : EventAgrees .makeSafe .makeSafe

/-- What is put out by cycles whose operators differ in the stance force at most. -/
structure OutputAgrees (x y : Command α × GaitStatus (gait : Gait α)) : Prop where
  phase : Report.phase x.2.gait = Report.phase y.2.gait
  numTouchdowns : Report.numTouchdowns x.2.gait = Report.numTouchdowns y.2.gait
  enabled : x.2.enabled = y.2.enabled
  rampFactor : x.2.rampFactor = y.2.rampFactor
  command : CommandAgrees (Report.phase x.2.gait) x.1 y.1

/-- Controllers that agree on all but the pendulum and the force. -/
structure ControlAgrees (c d : GaitControl (gait : Gait α)) : Prop where
  framework : c.framework = d.framework
  params : c.params = d.params
  enabled : c.enabled = d.enabled
  enabledCycles : c.enabledCycles = d.enabledCycles
  state : State.Agrees c.gait d.gait

theorem ControlAgrees.refl (c : GaitControl (gait : Gait α)) : ControlAgrees c c :=
  ⟨rfl, rfl, rfl, rfl, ⟨rfl, rfl⟩⟩

section Runs

variable {c d : GaitControl (gait : Gait α)} (h : ControlAgrees c d)

include h

/-- Enabling does not touch the gait. -/
theorem ControlAgrees.wake (snap : Snapshot α) :
    State.Agrees (c.wake snap) (d.wake snap) := by
  have hwake (c : GaitControl (gait : Gait α)) : c.wake snap = c.gait := by
    unfold GaitControl.wake
    split
    · rfl
    · rfl
  rw [hwake, hwake]
  exact h.state

theorem ControlAgrees.process_disabled (snap : Snapshot α) (i j : (gait : Gait α).Input) :
    ControlAgrees (c.process ⟨snap, i, false⟩).1 (d.process ⟨snap, j, false⟩).1 ∧
      OutputAgrees (c.process ⟨snap, i, false⟩).2 (d.process ⟨snap, j, false⟩).2 := by
  have hreset : State.Agrees (reset c.gait) (reset d.gait) := ⟨rfl, h.state.numTouchdowns⟩
  exact ⟨⟨h.framework, h.params, rfl, rfl, hreset⟩,
    ⟨rfl, hreset.numTouchdowns, rfl, rfl, .refl _ _⟩⟩

theorem ControlAgrees.process_enabled (snap : Snapshot α) {i j : (gait : Gait α).Input}
    (hi : Input.Agrees i j) :
    ControlAgrees (c.process ⟨snap, i, true⟩).1 (d.process ⟨snap, j, true⟩).1 ∧
      OutputAgrees (c.process ⟨snap, i, true⟩).2 (d.process ⟨snap, j, true⟩).2 := by
  have hstreak : c.streak = d.streak := by
    unfold GaitControl.streak
    rw [h.enabled, h.enabledCycles]
  have hstate := hi.evaluate_state d.params d.framework.cyclePeriod snap (h.wake snap)
  have hcommand : CommandAgrees _ _ _ :=
    hi.evaluate_command d.params d.framework.cyclePeriod snap (s := c.wake snap) (t := d.wake snap)
  simp only [GaitControl.process_enabled, h.framework, h.params, hstreak]
  refine ⟨⟨rfl, rfl, rfl, rfl, hstate⟩, ⟨hstate.phase, hstate.numTouchdowns, rfl, rfl, ?_⟩⟩
  -- The startup ramp scales the commands of both runs, or neither.
  split
  · exact hcommand.scale _
  · exact hcommand

/-- Events that agree keep controllers in agreement, and put out what agrees. -/
theorem ControlAgrees.step {e f : GaitControl.Event (gait : Gait α)} (he : EventAgrees e f) :
    ControlAgrees (c.step e).1 (d.step f).1 ∧
      List.Forall₂ OutputAgrees (c.step e).2.toList (d.step f).2.toList := by
  cases he with
  | makeSafe => exact ⟨⟨h.framework, h.params, rfl, rfl, h.state⟩, .nil⟩
  | process snap hi enabled =>
    cases enabled with
    | false =>
      obtain ⟨hnext, hout⟩ := h.process_disabled snap _ _
      exact ⟨hnext, .cons hout .nil⟩
    | true =>
      obtain ⟨hnext, hout⟩ := h.process_enabled snap hi
      exact ⟨hnext, .cons hout .nil⟩

theorem ControlAgrees.run {es fs : List (GaitControl.Event (gait : Gait α))}
    (hes : List.Forall₂ EventAgrees es fs) :
    List.Forall₂ OutputAgrees (c.run es).2 (d.run fs).2 := by
  induction hes generalizing c d with
  | nil => exact .nil
  | cons he _ ih =>
    obtain ⟨hnext, hout⟩ := h.step he
    exact List.rel_append hout (ih hnext)

end Runs

/-- Two runs from one controller, through events that differ at most in what the operator asks of
the stance force: in every cycle the phases, the touchdown counts, the currents of the right leg and
of both hips are the same, and in flight the whole command is. -/
theorem run_confined (c₀ : GaitControl (gait : Gait α))
    {es fs : List (GaitControl.Event (gait : Gait α))} (hes : List.Forall₂ EventAgrees es fs) :
    List.Forall₂ OutputAgrees (c₀.run es).2 (c₀.run fs).2 :=
  (ControlAgrees.refl c₀).run hes

/-- A pendulum that hops on a stiff spring. -/
def springInput : Input Float :=
  { Input.standard with slipForce := true, slipSpring := 20000, slipMass := 50, stanceKp := 300 }

/-- A constant push to the side. -/
def pushInput : Input Float :=
  { Input.standard with
    constantForce := true, fy := 40, fz := -300, robotSpring := 900, debug2 := true }

/-- The torso at a given height. -/
def torsoAt (height : Float) : Snapshot Float :=
  { (.zero : Snapshot Float) with position := { BodyPosition.zero with height } }

/-- A landing, a request to be made safe and a leap, once with the spring and once with the push. -/
theorem unconfigured_run_confined :
    let cycle (i : Input Float) (height : Float) : GaitControl.Event (gait : Gait Float) :=
      .process ⟨torsoAt height, i, true⟩
    let hop (i : Input Float) := [cycle i 1.1, cycle i 0.8, cycle i 0.7, .makeSafe, cycle i 0.8,
      cycle i 1.2]
    List.Forall₂ EventAgrees (hop springInput) (hop pushInput) ∧
      List.Forall₂ OutputAgrees ((GaitControl.unconfigured gait).run (hop springInput)).2
        ((GaitControl.unconfigured gait).run (hop pushInput)).2 := by
  intro cycle hop
  have hagrees : springInput.Agrees pushInput :=
    ⟨rfl, rfl, rfl, rfl, rfl, rfl, rfl, rfl, rfl, rfl, rfl⟩
  have hcycle (height : Float) : EventAgrees (cycle springInput height) (cycle pushInput height) :=
    .process (torsoAt height) hagrees true
  have hevents : List.Forall₂ EventAgrees (hop springInput) (hop pushInput) :=
    .cons (hcycle 1.1) <| .cons (hcycle 0.8) <| .cons (hcycle 0.7) <| .cons .makeSafe <|
      .cons (hcycle 0.8) <| .cons (hcycle 1.2) .nil
  exact ⟨hevents, run_confined _ hevents⟩

end BoomWalker.LegHop
