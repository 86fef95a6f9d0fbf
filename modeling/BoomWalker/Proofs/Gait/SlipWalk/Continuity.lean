/-
How far the targets of SLIP walking move in a cycle.

Main statement: over exact arithmetic with an undefined value, the targets that the motors and hips
track move by no more than their limits in one cycle. What a limiter moves from is a matter of the
cycle before alone (`Targets.resume`). The motor targets go on from their last values if that was a
standing cycle, and otherwise begin at the measured angles. The hip targets go on unless the cycle
before was one of shutdown or no enabled cycle at all. An undefined target leaves a limiter where it
is.

The invariant (`Continuing`) is that the mode of the last event is known, and that the memory from
which the next cycle may go on is defined.
-/
import BoomWalker.Proofs.Gait.Runs
import BoomWalker.Proofs.Gait.SlipWalk.Memory
import BoomWalker.Proofs.Scalar.Partial

namespace BoomWalker

/-! ## One limiter -/

open PartialReal in
/-- A limiter moves by no more than the bound, whatever its target. -/
theorem RateLimiter.apply_near {l : RateLimiter PartialReal} {m : ℝ} (hm : l.value = of m)
    {bound : PartialReal} (hbound : 0 ≤ bound) (target : PartialReal) :
    Near bound (l.apply target bound).value l.value := by
  obtain ⟨z, d, hz, rfl, hd⟩ := le_iff.mp hbound
  obtain rfl : 0 = z := PartialReal.of.inj (zero_eq.symm.trans hz)
  unfold RateLimiter.apply
  dsimp only
  rw [hm]
  cases target with
  | undefined =>
    -- An undefined step holds the limiter.
    rw [undefined_sub, isNaN_undefined, if_pos rfl, hm, near_of, sub_self, abs_zero]
    exact hd
  | of t =>
    have hlimit : (if (0 : PartialReal) < of d then of d else 0) = of d := by
      split
      · rfl
      · next hnot =>
        rw [zero_eq, of_lt] at hnot
        rw [zero_eq, le_antisymm hd (not_lt.mp hnot)]
    rw [of_sub, isNaN_of, if_neg Bool.false_ne_true, hlimit, of_neg, maxNum_of, minNum_of, of_add,
      near_of, add_sub_cancel_left, abs_le]
    constructor
    · exact le_min (le_max_right _ _) (neg_le_self hd)
    · exact min_le_right _ _

namespace SlipWalk

variable {α : Type}

/-! ## Targets -/

/-- A value for each joint of a leg that is driven by a limited target. -/
structure Targets (α : Type) where
  motorA : α
  motorB : α
  hip : α

/-- The targets that the limiters of a leg have reached. -/
def LegLimiters.targets (l : LegLimiters α) : Targets α :=
  ⟨l.motorA.value, l.motorB.value, l.hip.value⟩

/-- The measured angles of the joints. -/
def joints (leg : LegState α) : Targets α := ⟨leg.a.motorAngle, leg.b.motorAngle, leg.hip.angle⟩

/-- Where the targets of a leg move from in a cycle, given the mode of the cycle before if that was an
enabled one: from the last targets or from the measured angles. -/
def Targets.resume (before : Option Mode) (last measured : Targets α) : Targets α where
  motorA := if before = some .standing then last.motorA else measured.motorA
  motorB := if before = some .standing then last.motorB else measured.motorB
  hip := if before = none ∨ before = some .shutdown then measured.hip else last.hip

variable [Scalar α]

/-- The targets of a leg of a controller. -/
def targetsOf (c : GaitControl (gait : Gait α)) (side : Side) : Targets α :=
  ((State.limiters c.gait).get side).targets

/-- The currents of a leg pull its motors and its hip towards their targets, as far as the mode has
them track any. -/
structure Tracks (i : Input α) (mode : Mode) (leg : LegState α) (t : Targets α)
    (c : LegCurrents α) : Prop where
  motors : mode = .standing →
    c.a = (legPd i).track t.motorA leg.a.motorAngle 0 leg.a.motorVelocity ∧
      c.b = (legPd i).track t.motorB leg.b.motorAngle 0 leg.b.motorVelocity
  hip : mode ≠ .shutdown →
    c.hip = (hipPd i).track t.hip leg.hip.angle 0 leg.hip.velocity

/-! ## One evaluation -/

/-- The conclusion of a cycle leaves the mode and the targets alone. -/
theorem conclude_targets (s : State α) (p : Params α) (i : Input α) (snap : Snapshot α)
    (side : Side) :
    (s.conclude p i snap).mode = s.mode ∧
      ((s.conclude p i snap).limiters.get side).targets = (s.limiters.get side).targets := by
  -- What is captured at a change of phase is kept apart from the limiters.
  have hcapture : ∀ (s : State α) (kine : LegKinematics α) (stance : Side),
      ((s.captureExit kine snap stance).limiters.get side).targets =
        (s.limiters.get side).targets := by
    intro s kine stance
    unfold State.captureExit
    rw [Sided.get_ofFn]
    rfl
  unfold State.conclude
  cases hmode : s.mode with
  | standing => exact ⟨rfl, hcapture _ _ _⟩
  | shutdown => exact ⟨hmode, rfl⟩
  | walking =>
    simp only [State.follow]
    cases detect p i snap s.phase with
    | hold => exact ⟨hmode, rfl⟩
    | ignored => exact ⟨hmode, rfl⟩
    | transition => exact ⟨hmode, hcapture _ _ _⟩

/-- The controllers of the legs move the motor limiters only, and only in standing. -/
theorem driveLeg_limiters (p : Params α) (i : Input α) (period : α) (snap : Snapshot α)
    (s : State α) (side : Side) :
    let lim := s.limiters.get side
    let after := (driveLeg p i period snap s side).limiters
    after.hip = lim.hip ∧
      (s.mode = .standing → ∃ t, after.motorA = lim.motorA.apply t (p.legRateLimit * period)) ∧
      (s.mode = .standing → ∃ t, after.motorB = lim.motorB.apply t (p.legRateLimit * period)) := by
  intro lim after
  unfold after driveLeg
  cases hmode : s.mode with
  | standing => exact ⟨rfl, fun _ => ⟨_, rfl⟩, fun _ => ⟨_, rfl⟩⟩
  | shutdown => exact ⟨rfl, nofun, nofun⟩
  | walking =>
    cases s.phase with
    | double stance => exact ⟨rfl, nofun, nofun⟩
    | single stance =>
      dsimp only
      split
      · exact ⟨rfl, nofun, nofun⟩
      · exact ⟨rfl, nofun, nofun⟩

/-- The state in which the controllers of the legs run: the mode is entered, and the hips have
moved. -/
def State.prepare (s : State α) (p : Params α) (i : Input α) (period : α) (snap : Snapshot α) :
    State α :=
  (s.enterMode snap (Mode.ofSelector i.mainController)).moveHips p i period snap

/-- After a cycle the targets are those that the controllers of the legs have left. -/
theorem evaluate_targets (p : Params α) (period : α) (snap : Snapshot α) (i : Input α) (s : State α)
    (side : Side) :
    (evaluate p period snap i s).1.mode = Mode.ofSelector i.mainController ∧
      ((evaluate p period snap i s).1.limiters.get side).targets =
        (driveLeg p i period snap (s.prepare p i period snap) side).limiters.targets := by
  obtain ⟨hmode, htargets⟩ :=
    conclude_targets (drive p period snap i (s.prepare p i period snap)).1 p i snap side
  refine ⟨hmode, htargets.trans ?_⟩
  unfold drive
  rw [Sided.get_map, Sided.get_ofFn]

/-- A cycle has every hip limiter make one step, and the motor limiters if it is a standing one. -/
theorem evaluate_moves (p : Params α) (period : α) (snap : Snapshot α) (i : Input α) (s : State α)
    (side : Side) :
    let mode := Mode.ofSelector i.mainController
    let entered := (s.enterMode snap mode).limiters.get side
    let after := ((evaluate p period snap i s).1.limiters.get side).targets
    (∃ t, after.hip = (entered.hip.apply t (p.hipRateLimit * period)).value) ∧
      (mode = .standing →
        ∃ t, after.motorA = (entered.motorA.apply t (p.legRateLimit * period)).value) ∧
      (mode = .standing →
        ∃ t, after.motorB = (entered.motorB.apply t (p.legRateLimit * period)).value) := by
  intro mode entered after
  have hafter := (evaluate_targets p period snap i s side).2
  -- The hips have moved when the legs are driven, and then they stay where they are.
  have hprepared : (s.prepare p i period snap).limiters.get side = { entered with
      hip := entered.hip.apply ((p.hip.inverse (kinematics p i) p.toeRadius snap.legs
        snap.position).get side) (p.hipRateLimit * period) } :=
    Sided.get_ofFn _ side
  obtain ⟨hhip, hmotorA, hmotorB⟩ := driveLeg_limiters p i period snap (s.prepare p i period snap) side
  rw [hprepared] at hhip hmotorA hmotorB
  unfold after
  rw [hafter]
  refine ⟨⟨_, congrArg RateLimiter.value hhip⟩, fun hstanding => ?_, fun hstanding => ?_⟩
  · obtain ⟨t, ht⟩ := hmotorA hstanding
    exact ⟨t, congrArg RateLimiter.value ht⟩
  · obtain ⟨t, ht⟩ := hmotorB hstanding
    exact ⟨t, congrArg RateLimiter.value ht⟩

/-- The bias never concerns a hip, and it is given in walking only. -/
theorem addBias_keeps (p : Params α) (i : Input α) (mode : Mode) (phase : Phase) (side : Side)
    (c : LegCurrents α) :
    (addBias p i mode phase side c).hip = c.hip ∧
      (mode = .standing → addBias p i mode phase side c = c) := by
  unfold addBias
  split
  · refine ⟨?_, nofun⟩
    split
    · rfl
    · rfl
  · exact ⟨rfl, fun _ => rfl⟩

theorem hipCurrent_of_ne (i : Input α) {mode : Mode} (h : mode ≠ .shutdown) (lim : LegLimiters α)
    (leg : LegState α) :
    hipCurrent i mode lim leg = (hipPd i).track lim.hip.value leg.hip.angle 0 leg.hip.velocity := by
  cases mode with
  | standing => rfl
  | walking => rfl
  | shutdown => exact absurd rfl h

/-- The currents of a cycle track the targets that its limiters have reached. -/
theorem evaluate_tracks (p : Params α) (period : α) (snap : Snapshot α) (i : Input α) (s : State α)
    (side : Side) :
    Tracks i (Mode.ofSelector i.mainController) (snap.legs.get side)
      ((evaluate p period snap i s).1.limiters.get side).targets
      ((evaluate p period snap i s).2.legs.get side) := by
  let mode := Mode.ofSelector i.mainController
  let prepared := s.prepare p i period snap
  have hmode : prepared.mode = mode := rfl
  have hcurrents : (evaluate p period snap i s).2.legs.get side =
      addBias p i mode prepared.phase side
        ⟨(driveLeg p i period snap prepared side).a, (driveLeg p i period snap prepared side).b,
          hipCurrent i mode (prepared.limiters.get side) (snap.legs.get side)⟩ := by
    refine (Sided.get_ofFn _ side).trans ?_
    rw [Sided.get_ofFn]
    rfl
  rw [(evaluate_targets p period snap i s side).2, hcurrents]
  constructor
  · intro hstanding
    rw [(addBias_keeps p i mode prepared.phase side _).2 hstanding]
    unfold driveLeg
    rw [hmode.trans hstanding]
    exact ⟨rfl, rfl⟩
  · intro hdriven
    rw [(addBias_keeps p i mode prepared.phase side _).1]
    have hhip := (driveLeg_limiters p i period snap prepared side).1
    have htarget : (driveLeg p i period snap prepared side).limiters.targets.hip =
        (prepared.limiters.get side).hip.value := congrArg RateLimiter.value hhip
    rw [htarget]
    exact hipCurrent_of_ne i hdriven _ _

/-- An enabled cycle of a controller is one evaluation. -/
theorem targetsOf_process (c : GaitControl (gait : Gait α)) (snap : Snapshot α) (i : Input α)
    (side : Side) :
    targetsOf (c.process ⟨snap, i, true⟩).1 side =
      ((evaluate c.params c.framework.cyclePeriod snap i (c.wake snap)).1.limiters.get
        side).targets :=
  congrArg (fun answer => targetsOf answer.1 side) (GaitControl.process_enabled c snap i)

/-! ## The cycle before -/

/-- The mode of an event, if it is an enabled cycle. -/
def mode? : GaitControl.Event (gait : Gait α) → Option Mode
  | .process i => if i.enabled then some (Mode.ofSelector i.gui.mainController) else none
  | .makeSafe => none

/-- The mode of the last event, if it is an enabled cycle. -/
def lastMode? (es : List (GaitControl.Event (gait : Gait α))) : Option Mode :=
  es.getLast?.bind mode?

theorem lastMode?_concat (es : List (GaitControl.Event (gait : Gait α)))
    (e : GaitControl.Event (gait : Gait α)) : lastMode? (es ++ [e]) = mode? e := by
  unfold lastMode?
  rw [List.getLast?_concat]
  rfl

/-- A controller knows whether the cycle before was enabled, and its mode. -/
structure Remembers (before : Option Mode) (c : GaitControl (gait : Gait α)) : Prop where
  enabled : c.enabled = before.isSome
  mode : ∀ m, before = some m → State.mode c.gait = m

/-- The limiters of a cycle begin where the cycle before says. -/
theorem Remembers.enterMode {before : Option Mode} {c : GaitControl (gait : Gait α)}
    (h : Remembers before c) (snap : Snapshot α) (mode : Mode) (side : Side) :
    ((State.enterMode (c.wake snap) snap mode).limiters.get side).targets =
      .resume before (targetsOf c side) (joints (snap.legs.get side)) := by
  obtain ⟨framework, params, state, enabled, enabledCycles, numCycles⟩ := c
  obtain ⟨left, phase, exit, limiters, numTransitions, numIgnored, stanceFz, flightFz, output⟩ :=
    state
  obtain ⟨henabled, hmode⟩ := h
  cases before with
  | none =>
    -- Enabling has seeded all limiters, and the mode that is left may only seed them again.
    cases henabled
    cases left <;> cases side <;> rfl
  | some m =>
    cases henabled
    obtain rfl : left = m := hmode m rfl
    cases left <;> cases side <;> rfl

/-! ## Exact arithmetic -/

open PartialReal

/-- A defined value for each joint. -/
def Targets.Defined (t : Targets PartialReal) : Prop :=
  ∃ a b hip, t = ⟨of a, of b, of hip⟩

/-- The angles of all driven joints were measured. -/
def Measured (snap : Snapshot PartialReal) : Prop := ∀ side, (joints (snap.legs.get side)).Defined

/-- The targets of a leg lie near those that they moved from: the hip target in every cycle, and the
motor targets in standing. -/
structure Targets.NearTo (p : Params PartialReal) (period : PartialReal) (mode : Mode)
    (t start : Targets PartialReal) : Prop where
  hip : Near (p.hipRateLimit * period) t.hip start.hip
  motors : mode = .standing →
    Near (p.legRateLimit * period) t.motorA start.motorA ∧
      Near (p.legRateLimit * period) t.motorB start.motorB

/-- The mode of the last event is known, and the memory from which the next cycle may go on is
defined. -/
structure Continuing (before : Option Mode) (c : GaitControl (gait : Gait PartialReal)) :
    Prop where
  remembers : Remembers before c
  hips : ∀ m, before = some m → ∀ side, ∃ hip, (targetsOf c side).hip = of hip
  motors : before = some .standing → ∀ side,
    ∃ a b, (targetsOf c side).motorA = of a ∧ (targetsOf c side).motorB = of b

variable {c : GaitControl (gait : Gait PartialReal)} {before : Option Mode}

/-- The targets of a cycle move from defined values. -/
theorem Continuing.resume_defined (h : Continuing before c) {snap : Snapshot PartialReal}
    (hsnap : Measured snap) (side : Side) :
    (Targets.resume before (targetsOf c side) (joints (snap.legs.get side))).Defined := by
  obtain ⟨a, b, hip, hjoints⟩ := hsnap side
  rw [hjoints]
  cases before with
  | none => exact ⟨a, b, hip, rfl⟩
  | some m =>
    obtain ⟨hip', hhip⟩ := h.hips m rfl side
    cases m with
    | standing =>
      obtain ⟨a', b', ha, hb⟩ := h.motors rfl side
      refine ⟨a', b', hip', ?_⟩
      unfold Targets.resume
      simp [ha, hb, hhip]
    | walking =>
      refine ⟨a, b, hip', ?_⟩
      unfold Targets.resume
      simp [hhip]
    | shutdown =>
      refine ⟨a, b, hip, ?_⟩
      unfold Targets.resume
      simp

/-- In an enabled cycle the targets move by no more than their limits. -/
theorem Continuing.process_near (h : Continuing before c) {p : Params PartialReal}
    (hp : c.params = p) (hleg : 0 ≤ p.legRateLimit * c.framework.cyclePeriod)
    (hhip : 0 ≤ p.hipRateLimit * c.framework.cyclePeriod) {snap : Snapshot PartialReal}
    (hsnap : Measured snap) (i : Input PartialReal) (side : Side) :
    (targetsOf (c.process ⟨snap, i, true⟩).1 side).NearTo p c.framework.cyclePeriod
      (Mode.ofSelector i.mainController)
      (.resume before (targetsOf c side) (joints (snap.legs.get side))) := by
  subst hp
  obtain ⟨a, b, hip, hstart⟩ := h.resume_defined hsnap side
  have hentered := h.remembers.enterMode snap (Mode.ofSelector i.mainController) side
  rw [targetsOf_process, ← hentered]
  rw [hstart] at hentered
  obtain ⟨⟨t, ht⟩, hmotorA, hmotorB⟩ :=
    evaluate_moves c.params c.framework.cyclePeriod snap i (c.wake snap) side
  constructor
  · rw [ht]
    exact RateLimiter.apply_near (congrArg Targets.hip hentered) hhip t
  · intro hstanding
    obtain ⟨t, ht⟩ := hmotorA hstanding
    obtain ⟨t', ht'⟩ := hmotorB hstanding
    rw [ht, ht']
    exact ⟨RateLimiter.apply_near (congrArg Targets.motorA hentered) hleg t,
      RateLimiter.apply_near (congrArg Targets.motorB hentered) hleg t'⟩

/-! ## Runs -/

/-- What was measured in an event, if anything, is defined. -/
def EventMeasured : GaitControl.Event (gait : Gait PartialReal) → Prop
  | .process i => Measured i.state
  | .makeSafe => True

theorem Continuing.step (h : Continuing before c) {p : Params PartialReal} (hp : c.params = p)
    (hleg : 0 ≤ p.legRateLimit * c.framework.cyclePeriod)
    (hhip : 0 ≤ p.hipRateLimit * c.framework.cyclePeriod)
    {e : GaitControl.Event (gait : Gait PartialReal)} (he : EventMeasured e) :
    Continuing (mode? e) (c.step e).1 := by
  cases e with
  -- With the gait disabled nothing goes on, so nothing need be remembered.
  | makeSafe => exact ⟨⟨rfl, nofun⟩, nofun, nofun⟩
  | process input =>
    obtain ⟨snap, i, enabled⟩ := input
    cases enabled with
    | false => exact ⟨⟨rfl, nofun⟩, nofun, nofun⟩
    | true =>
      have hnear := h.process_near hp hleg hhip he i
      have hmode : State.mode (c.process ⟨snap, i, true⟩).1.gait =
          Mode.ofSelector i.mainController := by
        rw [GaitControl.process_enabled]
        exact (evaluate_targets _ _ _ _ _ .left).1
      refine ⟨⟨?_, fun m hm => ?_⟩, fun m hm side => (hnear side).hip.defined,
        fun hstanding side => ?_⟩
      · show (c.process ⟨snap, i, true⟩).1.enabled = true
        rw [GaitControl.process_enabled]
      · exact hmode.trans (Option.some.inj hm)
      · obtain ⟨hmotorA, hmotorB⟩ := (hnear side).motors (Option.some.inj hstanding)
        obtain ⟨a, ha⟩ := hmotorA.defined
        obtain ⟨b, hb⟩ := hmotorB.defined
        exact ⟨a, b, ha, hb⟩

/-- A limit that is not negative allows a step that is not negative. -/
theorem maxDelta_nonneg {f : Framework PartialReal} (hf : f.check = .ok ())
    {limit : PartialReal} (hlimit : 0 ≤ limit) : 0 ≤ limit * f.cyclePeriod := by
  have hperiod : 0 < f.cyclePeriod := by
    unfold Framework.check at hf
    split at hf
    · cases hf
    · next hperiod => exact not_not.mp hperiod
  rw [zero_eq] at hlimit hperiod ⊢
  obtain ⟨_, rate, hz, rfl, hrate⟩ := le_iff.mp hlimit
  cases hz
  obtain ⟨_, period, hz, hp, hpos⟩ := lt_iff.mp hperiod
  cases hz
  rw [hp, of_mul, of_le]
  exact mul_nonneg hrate hpos.le

variable {c₀ : GaitControl (gait : Gait PartialReal)}

theorem continuing_run (hoff : c₀.enabled = false) (hcheck : c₀.framework.check = .ok ())
    {p : Params PartialReal} (hp : c₀.params = p) (hleg : 0 ≤ p.legRateLimit)
    (hhip : 0 ≤ p.hipRateLimit) {es : List (GaitControl.Event (gait : Gait PartialReal))}
    (hes : ∀ e ∈ es, EventMeasured e) : Continuing (lastMode? es) (c₀.run es).1 := by
  -- From the end, since it is the last event that says what is remembered.
  induction es using List.reverseRecOn with
  | nil => exact ⟨⟨hoff, nofun⟩, nofun, nofun⟩
  | append_singleton es e ih =>
    have hbefore := ih fun e' he' => hes e' (List.mem_append_left [e] he')
    obtain ⟨hframework, hparams⟩ := c₀.run_fixed es
    rw [GaitControl.run_concat, lastMode?_concat]
    refine hbefore.step (hparams.trans hp) ?_ ?_
      (hes e (List.mem_append_right es (List.mem_singleton_self e)))
    · rw [hframework]
      exact maxDelta_nonneg hcheck hleg
    · rw [hframework]
      exact maxDelta_nonneg hcheck hhip

/-- After any events of a controller that starts out disabled, the targets that an enabled cycle
tracks lie no further than one step of their limits from where the cycle before lets them begin. The
currents are those that track them, ramped in. -/
theorem run_continuous (hoff : c₀.enabled = false) (hcheck : c₀.framework.check = .ok ())
    {p : Params PartialReal} (hp : c₀.params = p) (hleg : 0 ≤ p.legRateLimit)
    (hhip : 0 ≤ p.hipRateLimit) {es : List (GaitControl.Event (gait : Gait PartialReal))}
    (hes : ∀ e ∈ es, EventMeasured e) {snap : Snapshot PartialReal} (hsnap : Measured snap)
    (i : Input PartialReal) :
    let c := (c₀.run es).1
    let mode := Mode.ofSelector i.mainController
    let answer := c.process ⟨snap, i, true⟩
    (∃ out : Command PartialReal,
      answer.2.1 = (let ramp := answer.2.2.rampFactor
        if ramp < 1 then out.scale ramp else out) ∧
      ∀ side, Tracks i mode (snap.legs.get side) (targetsOf answer.1 side) (out.legs.get side)) ∧
    ∀ side, (targetsOf answer.1 side).NearTo p c₀.framework.cyclePeriod mode
      (.resume (lastMode? es) (targetsOf c side) (joints (snap.legs.get side))) := by
  intro c mode answer
  obtain ⟨hframework, hparams⟩ := c₀.run_fixed es
  constructor
  · refine ⟨_, GaitControl.process_ramped c snap i, fun side => ?_⟩
    have hafter := targetsOf_process c snap i side
    rw [hafter]
    exact evaluate_tracks c.params c.framework.cyclePeriod snap i (c.wake snap) side
  · intro side
    have hnear := (continuing_run hoff hcheck hp hleg hhip hes).process_near (hparams.trans hp)
      (hframework.symm ▸ maxDelta_nonneg hcheck hleg)
      (hframework.symm ▸ maxDelta_nonneg hcheck hhip) hsnap i side
    rw [hframework] at hnear
    exact hnear

/-- A new controller with a limit of 0.2 on each target. -/
noncomputable def partialController : GaitControl (gait : Gait PartialReal) :=
  ⟨⟨1, 0⟩, .standard, configure .initial, false, 0, 0⟩

/-- In the second of two standing cycles all targets go on from those of the first. -/
theorem partialController_run_continuous :
    let stand : GaitControl.Event (gait : Gait PartialReal) := .process ⟨.zero, .standard, true⟩
    let first := (partialController.run [stand]).1
    let second := (first.process ⟨.zero, (.standard : Input PartialReal), true⟩).1
    ∀ side,
      Near (0.2 * 1) (targetsOf second side).motorA (targetsOf first side).motorA ∧
        Near (0.2 * 1) (targetsOf second side).motorB (targetsOf first side).motorB ∧
        Near (0.2 * 1) (targetsOf second side).hip (targetsOf first side).hip := by
  intro stand first second side
  have hzero : Measured .zero := fun side => by
    cases side <;> exact ⟨_, _, _, rfl⟩
  have hlimit : (0 : PartialReal) ≤ 0.2 := by
    have hreal : (0 : ℝ) ≤ (2 : ℕ) / 10 ^ 1 := by positivity
    rw [zero_eq]
    exact hreal
  have hes : ∀ e ∈ [stand], EventMeasured e := by
    intro e he
    obtain rfl := List.mem_singleton.mp he
    exact hzero
  have hoff : partialController.enabled = false := rfl
  have hcheck : partialController.framework.check = .ok () := by
    unfold partialController Framework.check
    simp [zero_eq, one_eq]
  obtain ⟨-, hnear⟩ := run_continuous hoff hcheck rfl hlimit hlimit hes hzero .standard
  obtain ⟨hhip, hmotors⟩ := hnear side
  obtain ⟨hmotorA, hmotorB⟩ := hmotors rfl
  exact ⟨hmotorA, hmotorB, hhip⟩

end SlipWalk

end BoomWalker
