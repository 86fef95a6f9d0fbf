/-
Canonical walking: a gait designed offline in the canonical configuration, which is the torso angle
and the motor angles of the stance and of the other leg. This file holds its parameters and state,
the canonical configuration, and the walking function.
-/
import BoomWalker.Gait.Basic
import BoomWalker.Motion.Pd
import BoomWalker.Motion.RateLimiter

namespace BoomWalker.CanonWalk

variable {α : Type}

structure Params (α : Type) where
  /-- Rate limit of every motor target, radians per second. -/
  motorRateLimit : α
  /-- Hip angle held on both legs. -/
  hipTarget : α
  /-- Bounds of the phase variable. -/
  tauMin : α
  tauMax : α

structure Input (α : Type) where
  /-- Mode selector. -/
  mainController : UInt8
  legKp : α
  legKd : α
  hipKp : α
  hipKd : α

/-- Supervisory mode. -/
inductive Mode where
  | standing
  | walking
  | stopping
deriving DecidableEq, Repr, Inhabited

/-- One value for each virtual output of the walking function. -/
structure Outputs (β : Type) where
  stanceAngle : β
  otherAngle : β
  stanceKnee : β
  otherKnee : β

/-- One value for each motor, by the role of its leg. -/
structure LegMotors (β : Type) where
  stanceA : β
  stanceB : β
  otherA : β
  otherB : β

/-- Coefficients of `exp(-a4 t) (a1 cos(a2 t) + a3 sin(a2 t)) + a5`. -/
structure Coeffs (α : Type) where
  a1 : α
  a2 : α
  a3 : α
  a4 : α
  a5 : α

/-- The rig in the canonical configuration. -/
structure Canonical (α : Type) where
  torso : α
  torsoRate : α
  motors : LegMotors α
  motorRates : LegMotors α

/-- Position and velocity targets of the two motors of a leg. -/
structure MotorTargets (α : Type) where
  posA : α
  posB : α
  velA : α
  velB : α

/-- Limiters of the two motors of a leg. -/
structure MotorLimiters (α : Type) where
  a : RateLimiter α
  b : RateLimiter α

structure State (α : Type) where
  mode : Mode
  /-- The leg that bears the load. -/
  stance : Side
  limiters : Sided (MotorLimiters α)
  /-- Desired outputs of the last walking cycle. -/
  y : Outputs α
  tau : α
  dtau : α
  numSteps : Nat
  output : Command α

structure Report (α : Type) where
  mode : Mode
  stance : Side
  tau : α
  dtau : α
  numSteps : Nat

namespace Mode

/-- Selectors outside the list stop. -/
def ofSelector (n : UInt8) : Mode :=
  if n = 0 then standing else if n = 1 then walking else stopping

def index : Mode → Nat
  | standing => 0
  | walking => 1
  | stopping => 2

def name : Mode → String
  | standing => "Standing"
  | walking => "Walking"
  | stopping => "Stopping"

end Mode

/-- The stance leg in diagnostic records. -/
def stanceIndex : Side → Nat
  | .left => 0
  | .right => 1

def Outputs.map {β γ : Type} (f : β → γ) (o : Outputs β) : Outputs γ :=
  ⟨f o.stanceAngle, f o.otherAngle, f o.stanceKnee, f o.otherKnee⟩

def Outputs.toList {β : Type} (o : Outputs β) : List β :=
  [o.stanceAngle, o.otherAngle, o.stanceKnee, o.otherKnee]

def LegMotors.toList {β : Type} (m : LegMotors β) : List β :=
  [m.stanceA, m.stanceB, m.otherA, m.otherB]

variable [Scalar α]

def Params.standard : Params α := ⟨0.3, 3 * Scalar.halfPi, 0, 1⟩

def Input.standard : Input α := ⟨0, 500, 10, 150, 10⟩

/-! ## The walking function -/

/-- The coefficients of the designed gait. -/
def walkingCoeffs : Outputs (Coeffs α) where
  stanceAngle := ⟨0.29315756, -3.47513300, -0.12892990, 0.61400634, 3.27548479⟩
  otherAngle := ⟨-0.46569548, 3.05272503, -0.48594434, 3.30148543, 3.54487616⟩
  stanceKnee := ⟨-0.00689978, -7.58620951, 0.00406186, -2.62897489, 0.26955308⟩
  otherKnee := ⟨-0.89695408, 6.13951996, -0.07070758, 0.48012954, 0.88758479⟩

/-- Value of one output at `tau`. -/
def Coeffs.eval (c : Coeffs α) (tau : α) : α :=
  Scalar.exp (-c.a4 * tau) * (c.a1 * Scalar.cos (c.a2 * tau) + c.a3 * Scalar.sin (c.a2 * tau)) +
    c.a5

/-- Derivative of one output in `tau`. -/
def Coeffs.slope (c : Coeffs α) (tau : α) : α :=
  let s := Scalar.sin (c.a2 * tau)
  let co := Scalar.cos (c.a2 * tau)
  Scalar.exp (-c.a4 * tau) *
    (-c.a4 * (c.a1 * co + c.a3 * s) + c.a2 * (-c.a1 * s + c.a3 * co))

/-- The outputs at `tau`. -/
def walkingOutputs (coeffs : Outputs (Coeffs α)) (tau : α) : Outputs α := coeffs.map (·.eval tau)

/-- The derivatives of the outputs at `tau`. -/
def walkingSlopes (coeffs : Outputs (Coeffs α)) (tau : α) : Outputs α := coeffs.map (·.slope tau)

/-- Weights of the four outputs in each motor angle: a leg angle is the mean of its motor angles,
and a knee angle their difference. -/
def motorWeights : LegMotors (Outputs α) where
  stanceA := ⟨1, 0, -0.5, 0⟩
  stanceB := ⟨1, 0, 0.5, 0⟩
  otherA := ⟨0, 1, 0, -0.5⟩
  otherB := ⟨0, 1, 0, 0.5⟩

/-- The weighted sum of the outputs, in their order. -/
def Outputs.dot (w y : Outputs α) : α :=
  w.stanceAngle * y.stanceAngle + w.otherAngle * y.otherAngle + w.stanceKnee * y.stanceKnee +
    w.otherKnee * y.otherKnee

/-- Outputs to canonical motor angles; also output rates to motor rates. -/
def outputsToMotors (y : Outputs α) : LegMotors α :=
  ⟨motorWeights.stanceA.dot y, motorWeights.stanceB.dot y, motorWeights.otherA.dot y,
    motorWeights.otherB.dot y⟩

/-! ## The canonical configuration -/

/-- Body pitch of the rig at which the torso angle is zero. -/
def nominalPitch : α := 3 * Scalar.halfPi

def torsoAngle (snap : Snapshot α) : α := snap.position.bodyPitch - nominalPitch

/-- Motor angle of the rig to canonical motor angle. -/
def toCanonical (torso q : α) : α := q + Scalar.halfPi + torso

/-- Canonical motor angle to motor angle of the rig. -/
def toRig (torso q : α) : α := q - Scalar.halfPi - torso

/-- The measured rig with the given leg in stance. -/
def Canonical.ofSnapshot (snap : Snapshot α) (stance : Side) : Canonical α :=
  let torso := torsoAngle snap
  let rate := snap.position.bodyPitchVelocity
  let sl := snap.legs.get stance
  let nsl := snap.legs.get stance.opposite
  { torso
    torsoRate := rate
    motors := ⟨toCanonical torso sl.a.motorAngle, toCanonical torso sl.b.motorAngle,
      toCanonical torso nsl.a.motorAngle, toCanonical torso nsl.b.motorAngle⟩
    motorRates := ⟨sl.a.motorVelocity + rate, sl.b.motorVelocity + rate,
      nsl.a.motorVelocity + rate, nsl.b.motorVelocity + rate⟩ }

/-- Angle of the stance leg and its rate. -/
def Canonical.stanceAngle (c : Canonical α) : α × α :=
  ((c.motors.stanceA + c.motors.stanceB) / 2, (c.motorRates.stanceA + c.motorRates.stanceB) / 2)

/-- Targets of the stance leg and of the other leg. -/
def Canonical.targets (c : Canonical α) : MotorTargets α × MotorTargets α :=
  (⟨toRig c.torso c.motors.stanceA, toRig c.torso c.motors.stanceB,
      c.motorRates.stanceA - c.torsoRate, c.motorRates.stanceB - c.torsoRate⟩,
    ⟨toRig c.torso c.motors.otherA, toRig c.torso c.motors.otherB,
      c.motorRates.otherA - c.torsoRate, c.motorRates.otherB - c.torsoRate⟩)

/-- Canonical motor angles at the start of a step with the left leg in stance. -/
def startPose : LegMotors α :=
  ⟨3.43731571117661, 3.69996901140680, 3.08386532926800, 3.07449603435955⟩

def MotorLimiters.zero : MotorLimiters α := ⟨.zero, .zero⟩

def State.initial : State α :=
  ⟨.standing, .left, .both .zero, ⟨0, 0, 0, 0⟩, 0, 0, 0, .safe⟩

end BoomWalker.CanonWalk
