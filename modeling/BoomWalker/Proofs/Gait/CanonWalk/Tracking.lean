/-
How far the motor targets of canonical walking move in a cycle.

Main statement: over exact arithmetic, no motor target moves by more than its limit in one cycle,
whatever happens to the mode and the stance leg meanwhile. What it moves from depends on the streak
of enabled cycles alone: the measured angle in the first of them, and the target of the cycle before
in every later one. The stance leg decides which targets a leg is given, but not which limiters
they pass: those belong to the side.
-/
import BoomWalker.Proofs.Gait.CanonWalk.Cycle
import BoomWalker.Proofs.Gait.StartupRamp
import BoomWalker.Proofs.Motion.RateLimiter

namespace BoomWalker.CanonWalk

variable {α : Type}

/-! ## Targets -/

/-- An angle, or a rate, for each motor of a leg. -/
structure MotorAngles (α : Type) where
  a : α
  b : α

/-- The targets that the limiters of a leg have reached. -/
def MotorLimiters.angles (l : MotorLimiters α) : MotorAngles α := ⟨l.a.value, l.b.value⟩

/-- The measured motor angles of a leg. -/
def motorAngles (leg : LegState α) : MotorAngles α := ⟨leg.a.motorAngle, leg.b.motorAngle⟩

variable [Scalar α]

/-- The position targets of the motors of a leg after a cycle. -/
def targetsOf (c : GaitControl (gait : Gait α)) (side : Side) : MotorAngles α :=
  ((State.limiters c.gait).get side).angles

/-- The velocity targets that go with them. -/
def ratesOf (c : GaitControl (gait : Gait α)) (snap : Snapshot α) (side : Side) : MotorAngles α :=
  ⟨((State.targets c.gait snap).get side).velA, ((State.targets c.gait snap).get side).velB⟩

/-- The currents of a leg pull its motors towards positions and rates. -/
structure Tracks (i : Input α) (leg : LegState α) (pos rate : MotorAngles α)
    (c : LegCurrents α) : Prop where
  a : c.a = (⟨i.legKp, i.legKd⟩ : Pd α).track pos.a leg.a.motorAngle rate.a leg.a.motorVelocity
  b : c.b = (⟨i.legKp, i.legKd⟩ : Pd α).track pos.b leg.b.motorAngle rate.b leg.b.motorVelocity

/-- The limiters of an enabled cycle begin at the measured angles if the gait was disabled, and go
on from their last targets otherwise. -/
theorem wake_angles (c : GaitControl (gait : Gait α)) (snap : Snapshot α) (side : Side) :
    ((State.limiters (c.wake snap)).get side).angles =
      if c.enabled then targetsOf c side else motorAngles (snap.legs.get side) := by
  unfold GaitControl.wake
  split
  · rfl
  · cases side <;> rfl

/-- The currents of an enabled cycle track the targets that it leaves, ramped in. -/
theorem process_tracks (c : GaitControl (gait : Gait α)) (snap : Snapshot α) (i : Input α) :
    let answer := c.process ⟨snap, i, true⟩
    ∃ out : Command α,
      answer.2.1 = GaitControl.ramped answer.2.2.rampFactor out ∧
      ∀ side, Tracks i (snap.legs.get side) (targetsOf answer.1 side) (ratesOf answer.1 snap side)
        (out.legs.get side) := by
  intro answer
  refine ⟨_, GaitControl.process_ramped c snap i, fun side => ?_⟩
  have hgait : answer.1.gait =
      (evaluate c.params c.framework.cyclePeriod snap i (c.wake snap)).1 :=
    GaitControl.gait_process_enabled c snap i
  have hlegs : ((gait.evaluate c.params c.framework.cyclePeriod snap i (c.wake snap)).2.legs.get
      side) = _ := evaluate_legs c.params c.framework.cyclePeriod snap i (c.wake snap) side
  unfold targetsOf ratesOf
  rw [hgait, hlegs]
  exact ⟨rfl, rfl⟩

/-! ## Exact arithmetic -/

/-- Both angles of a leg lie within a bound of two others. -/
structure MotorAngles.NearTo (bound : ℝ) (x y : MotorAngles ℝ) : Prop where
  a : |x.a - y.a| ≤ bound
  b : |x.b - y.b| ≤ bound

/-- Both limiters of a leg make one step. -/
theorem MotorLimiters.move_near (l : MotorLimiters ℝ) (t : MotorTargets ℝ) {bound : ℝ}
    (hbound : 0 ≤ bound) : (l.move t bound).angles.NearTo bound l.angles :=
  ⟨l.a.abs_apply_sub_le t.posA hbound, l.b.abs_apply_sub_le t.posB hbound⟩

/-- A cycle moves each target by no more than its limit, in any mode and on any stance leg. -/
theorem evaluate_near {p : Params ℝ} {period : ℝ} (hbound : 0 ≤ p.motorRateLimit * period)
    (snap : Snapshot ℝ) (i : Input ℝ) (s : State ℝ) (side : Side) :
    ((evaluate p period snap i s).1.limiters.get side).angles.NearTo
      (p.motorRateLimit * period) (s.limiters.get side).angles := by
  rw [evaluate_limiters]
  exact MotorLimiters.move_near _ _ hbound

variable {c₀ : GaitControl (gait : Gait ℝ)}

/-- After any events of a new controller, an enabled cycle tracks motor targets that lie no further
than their limit from where they begin: the measured angles if no enabled cycle came just before,
and the targets of that cycle otherwise. -/
theorem run_targets_near (hc₀ : c₀.Created) {p : Params ℝ} (hp : c₀.params = p)
    (hrate : 0 ≤ p.motorRateLimit) (es : List (GaitControl.Event (gait : Gait ℝ)))
    (snap : Snapshot ℝ) (i : Input ℝ) :
    let c := (c₀.run es).1
    let answer := c.process ⟨snap, i, true⟩
    (∃ out : Command ℝ,
      answer.2.1 = GaitControl.ramped answer.2.2.rampFactor out ∧
      ∀ side, Tracks i (snap.legs.get side) (targetsOf answer.1 side) (ratesOf answer.1 snap side)
        (out.legs.get side)) ∧
    ∀ side, (targetsOf answer.1 side).NearTo (p.motorRateLimit * c₀.framework.cyclePeriod)
      (if GaitControl.enabledStreak es = 0 then motorAngles (snap.legs.get side)
        else targetsOf c side) := by
  intro c answer
  refine ⟨process_tracks c snap i, fun side => ?_⟩
  obtain ⟨hframework, hparams⟩ := c₀.run_fixed es
  have hbound : 0 ≤ p.motorRateLimit * c₀.framework.cyclePeriod :=
    mul_nonneg hrate hc₀.cyclePeriod_pos.le
  have hgait : answer.1.gait = (evaluate p c₀.framework.cyclePeriod snap i (c.wake snap)).1 := by
    rw [← hp, ← hparams, ← hframework]
    exact GaitControl.gait_process_enabled c snap i
  have hnear := evaluate_near hbound snap i (c.wake snap) side
  rw [← hgait, wake_angles] at hnear
  -- Whether the gait is enabled is known from the streak.
  have hstreak : c.enabled = decide (0 < GaitControl.enabledStreak es) :=
    (c₀.steady_run hc₀.disabled.1 hc₀.disabled.2 es).enabled
  by_cases hzero : GaitControl.enabledStreak es = 0
  · simp only [hstreak, hzero, lt_irrefl, decide_false, Bool.false_eq_true, if_false] at hnear
    rw [if_pos hzero]
    exact hnear
  · simp only [hstreak, Nat.pos_of_ne_zero hzero, decide_true, if_true] at hnear
    rw [if_neg hzero]
    exact hnear

/-- A cycle that stands and then one that walks: the first moves the targets from the measured
angles, and the second goes on from there. -/
theorem unconfigured_run_targets_near :
    let c₀ : GaitControl (gait : Gait ℝ) := .unconfigured gait
    let stand : GaitControl.Event (gait : Gait ℝ) := .process ⟨.zero, .standard, true⟩
    let walk : Input ℝ := { Input.standard with mainController := 1 }
    let first := (c₀.run [stand]).1
    let second := (first.process ⟨.zero, walk, true⟩).1
    let bound := (Params.standard : Params ℝ).motorRateLimit * c₀.framework.cyclePeriod
    c₀.Created ∧ 0 ≤ (Params.standard : Params ℝ).motorRateLimit ∧
      ∀ side,
        (targetsOf first side).NearTo bound
          (motorAngles ((Snapshot.zero : Snapshot ℝ).legs.get side)) ∧
        (targetsOf second side).NearTo bound (targetsOf first side) := by
  intro c₀ stand walk first second bound
  have hrate : 0 ≤ (Params.standard : Params ℝ).motorRateLimit := by
    have hreal : (0 : ℝ) ≤ (3 : ℕ) / 10 ^ 1 := by positivity
    exact hreal
  have hc₀ : c₀.Created := .unconfigured
  refine ⟨hc₀, hrate, fun side => ⟨?_, ?_⟩⟩
  · exact (run_targets_near hc₀ rfl hrate [] .zero .standard).2 side
  · exact (run_targets_near hc₀ rfl hrate [stand] .zero walk).2 side

end BoomWalker.CanonWalk
