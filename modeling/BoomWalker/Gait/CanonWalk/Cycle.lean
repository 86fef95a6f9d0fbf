/-
One control cycle of canonical walking.

The phase variable `tau` is computed from the stance leg angle. The outputs of the walking function
at `tau` become motor targets, which are rate limited and tracked. When `tau` reaches one the
legs exchange their roles.
-/
import BoomWalker.Gait.CanonWalk.Basic

namespace BoomWalker.CanonWalk

variable {α : Type} [Scalar α]

def seedLimiters (snap : Snapshot α) : Sided (MotorLimiters α) :=
  snap.legs.map fun leg => ⟨⟨leg.a.motorAngle⟩, ⟨leg.b.motorAngle⟩⟩

/-! ## Motor targets -/

/-- The start pose with the left leg in stance, at rest. -/
def standingTargets (snap : Snapshot α) : Sided (MotorTargets α) :=
  let torso := torsoAngle snap
  ⟨⟨toRig torso startPose.stanceA, toRig torso startPose.stanceB, 0, 0⟩,
    ⟨toRig torso startPose.otherA, toRig torso startPose.otherB, 0, 0⟩⟩

/-- Stance leg angle at the start of a step. -/
def thetaStart : α := (walkingOutputs walkingCoeffs (0 : α)).stanceAngle

/-- The stance leg angle runs from its own start value to that of the other leg. -/
def thetaSpan : α := (walkingOutputs walkingCoeffs (0 : α)).otherAngle - thetaStart

/-- The phase variable before it is bounded, with the given leg in stance. -/
def rawTau (snap : Snapshot α) (stance : Side) : α :=
  ((Canonical.ofSnapshot snap stance).stanceAngle.1 - thetaStart) / thetaSpan

/-- The leg that bears the load in this cycle: a completed step exchanges the legs. -/
def stepStance (snap : Snapshot α) (stance : Side) : Side :=
  if 1 ≤ rawTau snap stance then stance.opposite else stance

/-- The bounded phase variable. -/
def boundedTau (p : Params α) (snap : Snapshot α) (stance : Side) : α :=
  Scalar.clamp (rawTau snap stance) p.tauMin p.tauMax

/-- Rate of the phase variable. -/
def tauRate (snap : Snapshot α) (stance : Side) : α :=
  (Canonical.ofSnapshot snap stance).stanceAngle.2 / thetaSpan

/-- Targets of the stance leg and of the other leg at a phase and its rate. -/
def walkingTargets (coeffs : Outputs (Coeffs α)) (canon : Canonical α) (tau dtau : α) :
    MotorTargets α × MotorTargets α :=
  Canonical.targets
    { canon with
      motors := outputsToMotors (walkingOutputs coeffs tau)
      motorRates := outputsToMotors ((walkingSlopes coeffs tau).map (· * dtau)) }

/-! ## Tracking -/

/-- Rate limit the targets of a leg. -/
def MotorLimiters.move (l : MotorLimiters α) (t : MotorTargets α) (maxDelta : α) :
    MotorLimiters α :=
  ⟨l.a.apply t.posA maxDelta, l.b.apply t.posB maxDelta⟩

/-- Track the limited targets of a leg, and hold its hip. -/
def trackLeg (p : Params α) (i : Input α) (lim : MotorLimiters α) (t : MotorTargets α)
    (leg : LegState α) : LegCurrents α :=
  let legPd : Pd α := ⟨i.legKp, i.legKd⟩
  let hipPd : Pd α := ⟨i.hipKp, i.hipKd⟩
  ⟨legPd.track lim.a.value leg.a.motorAngle t.velA leg.a.motorVelocity,
    legPd.track lim.b.value leg.b.motorAngle t.velB leg.b.motorVelocity,
    hipPd.track p.hipTarget leg.hip.angle 0 leg.hip.velocity⟩

/-! ## The cycle -/

/-- Mode, stance leg and phase of this cycle. -/
def State.advance (s : State α) (p : Params α) (snap : Snapshot α) (mode : Mode) : State α :=
  match mode with
  | .standing => { s with mode }
  | .stopping => { s with mode, stance := .left }
  | .walking =>
    let stance := stepStance snap s.stance
    let tau := boundedTau p snap stance
    { s with
      mode, stance, tau
      dtau := tauRate snap stance
      y := walkingOutputs walkingCoeffs tau
      numSteps := if stance = s.stance then s.numSteps else s.numSteps + 1 }

/-- The targets of each leg in this cycle. -/
def State.targets (s : State α) (snap : Snapshot α) : Sided (MotorTargets α) :=
  match s.mode with
  | .walking =>
    let t := walkingTargets walkingCoeffs (.ofSnapshot snap s.stance) s.tau s.dtau
    .ofFn fun side => if side = s.stance then t.1 else t.2
  | _ => standingTargets snap

def evaluate (p : Params α) (period : α) (snap : Snapshot α) (i : Input α) (s : State α) :
    State α × Command α :=
  let s := s.advance p snap (Mode.ofSelector i.mainController)
  let targets := s.targets snap
  let maxDelta := RateLimiter.maxDelta p.motorRateLimit period
  let limiters : Sided (MotorLimiters α) :=
    .ofFn fun side => (s.limiters.get side).move (targets.get side) maxDelta
  let output : Command α :=
    ⟨.ofFn fun side =>
      trackLeg p i (limiters.get side) (targets.get side) (snap.legs.get side), .run⟩
  ({ s with limiters, output }, output)

def reset (snap : Snapshot α) (s : State α) : State α :=
  { s with mode := .standing, stance := .left, limiters := seedLimiters snap, output := .safe }

def log (s : State α) : Record α :=
  [("mode", .index s.mode.index), ("stance_leg", .index (stanceIndex s.stance)),
    ("tau", .real s.tau), ("dtau", .real s.dtau), ("y_stance_angle", .real s.y.stanceAngle),
    ("y_non_stance_angle", .real s.y.otherAngle), ("y_stance_knee", .real s.y.stanceKnee),
    ("y_non_stance_knee", .real s.y.otherKnee)] ++ currentColumns s.output

def gait : Gait α where
  Params := Params α
  Input := Input α
  State := State α
  Report := Report α
  name := "canon_walk"
  defaultParams := Params.standard
  defaultInput := Input.standard
  initial := State.initial
  configure := fun _ s => s
  reset := fun _ => reset
  onEnable := fun _ snap s => { s with limiters := seedLimiters snap }
  evaluate := evaluate
  report := fun s => ⟨s.mode, s.stance, s.tau, s.dtau, s.numSteps⟩
  log := log

end BoomWalker.CanonWalk
