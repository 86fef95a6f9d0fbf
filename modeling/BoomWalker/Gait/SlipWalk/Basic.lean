/-
SLIP walking: walking in the manner of a spring-loaded inverted pendulum. This file holds its
parameters, modes, phases and state.

The operator chooses the mode. Within `walking` the gait cycles through four phases: single support
on one leg, double support while the other leg takes over, and the same with the legs exchanged. A
phase is named by the leg that bears, or takes over, the load, so exchanging the legs of the rig is
exchanging the side in the phase.
-/
import BoomWalker.Gait.Basic
import BoomWalker.Motion.HipKinematics
import BoomWalker.Motion.LegForce
import BoomWalker.Motion.Pd
import BoomWalker.Motion.RateLimiter

namespace BoomWalker.SlipWalk

variable {α : Type}

structure Params (α : Type) where
  leg : LegKinematics α
  drive : Drive α
  hip : HipKinematics α
  toeRadius : Sided α
  /-- Rate limit of the standing motor targets, radians per second. -/
  legRateLimit : α
  /-- Rate limit of the hip targets, radians per second. -/
  hipRateLimit : α
  /-- Rate limit of the rest length of the stance spring, metres per second. -/
  springRateLimit : α
  /-- Change of the flight leg angle over the whole stance domain at touchdown. -/
  swingEndVelocity : α
  /-- Current added to both stance motors when the operator asks for it, amperes. -/
  debugBias : α

structure Input (α : Type) where
  /-- Mode selector. -/
  mainController : UInt8
  /-- Take the flight leg off by hand. -/
  manualTakeoff : Bool
  /-- Touch the flight leg down by hand. -/
  manualTouchdown : Bool
  /-- Vertical force magnitude from which the flight leg has touched down, newtons. -/
  touchdownForce : α
  /-- Vertical force magnitude up to which a leg has taken off, newtons. -/
  takeoffForce : α
  /-- Allowed height of the flight toe above the stance toe at touchdown, metres. -/
  touchdownHeight : α
  /-- Rest length of the virtual leg spring, metres. -/
  slipLeg : α
  /-- Rotational stiffness of the rig's leg springs. -/
  robotSpring : α
  /-- How far the flight leg retracts at mid swing, metres. -/
  swingRetraction : α
  /-- Stance leg angle at which the flight leg should touch down. -/
  stanceTarget : α
  /-- Flight leg angle at touchdown. -/
  flightTarget : α
  legKp : α
  legKd : α
  hipKp : α
  hipKd : α
  forceKp : α
  forceKd : α
  /-- Add the fixed bias to the stance leg in single support. -/
  debug : Bool

/-- Outer mode. -/
inductive Mode where
  /-- Hold an upright neutral pose. -/
  | standing
  | walking
  /-- Damp every motor. -/
  | shutdown
deriving DecidableEq, Repr, Inhabited

/-- Phase of the walking cycle, with the leg that bears or takes over the load. -/
inductive Phase where
  | single (stance : Side)
  | double (stance : Side)
deriving DecidableEq, Repr, Inhabited

/-- The legs at the last transition. The flight leg starts the next swing, and the lengths before
the springs seed the rest lengths. -/
structure ExitConditions (α : Type) where
  stance : LegPolar α
  flight : LegPolar α
  /-- Angle and length of the stance leg before its springs. -/
  stanceMotor : α × α
  /-- Angle and length of the flight leg before its springs. -/
  flightMotor : α × α

/-- Rate limiter memory of one leg. -/
structure LegLimiters (α : Type) where
  motorA : RateLimiter α
  motorB : RateLimiter α
  hip : RateLimiter α
  restLength : RateLimiter α

structure State (α : Type) where
  mode : Mode
  phase : Phase
  exit : ExitConditions α
  limiters : Sided (LegLimiters α)
  numTransitions : Nat
  /-- Touchdowns ignored because the flight toe was behind. -/
  numIgnored : Nat
  /-- Vertical forces seen by the last event detection. -/
  stanceFz : α
  flightFz : α
  output : Command α

structure Report (α : Type) where
  mode : Mode
  phase : Phase
  numTransitions : Nat
  numIgnored : Nat
  stanceFz : α
  flightFz : α
  exit : ExitConditions α

namespace Mode

/-- Selectors outside the list shut down. -/
def ofSelector (n : UInt8) : Mode :=
  if n = 0 then standing else if n = 1 then walking else shutdown

def index : Mode → Nat
  | standing => 0
  | walking => 1
  | shutdown => 2

def name : Mode → String
  | standing => "Standing"
  | walking => "Walking"
  | shutdown => "Shutdown"

end Mode

namespace Phase

/-- The phase before any step: standing on the right leg. -/
def start : Phase := single .right

/-- The phase entered on the next accepted event. -/
def next : Phase → Phase
  | single s => double s.opposite
  | double s => single s

/-- The leg that bears or takes over the load. -/
def stance : Phase → Side
  | single s => s
  | double s => s

/-- The other leg: in flight, or about to be. -/
def flight (p : Phase) : Side := p.stance.opposite

/-- The phase with the legs exchanged. -/
def swapLegs : Phase → Phase
  | single s => single s.opposite
  | double s => double s.opposite

/-- Position in the walking cycle from `start`. -/
def index : Phase → Nat
  | single .right => 0
  | double .left => 1
  | single .left => 2
  | double .right => 3

def name : Phase → String
  | single .right => "RightSingleSupport"
  | double .left => "DoubleSupportRightToLeft"
  | single .left => "LeftSingleSupport"
  | double .right => "DoubleSupportLeftToRight"

@[simp] theorem swapLegs_next (p : Phase) : p.next.swapLegs = p.swapLegs.next := by
  cases p <;> simp [next, swapLegs]

theorem index_next (p : Phase) : p.next.index = (p.index + 1) % 4 := by
  rcases p with s | s <;> cases s <;> rfl

end Phase

section Defaults

variable [Scalar α]

def Params.standard : Params α where
  leg := .standard
  drive := .standard
  hip := .standard
  toeRadius := standardToeRadius
  legRateLimit := 0.2
  hipRateLimit := 0.2
  springRateLimit := 0.05
  swingEndVelocity := 0.8
  debugBias := 5

def Input.standard : Input α where
  mainController := 0
  manualTakeoff := false
  manualTouchdown := false
  touchdownForce := 100
  takeoffForce := 50
  touchdownHeight := 0.1
  slipLeg := 0.9
  robotSpring := 1600
  swingRetraction := 0.1
  stanceTarget := 1.85
  flightTarget := 1.35
  legKp := 600
  legKd := 20
  hipKp := 150
  hipKd := 10
  forceKp := 20
  forceKd := 1
  debug := false

def LegLimiters.zero : LegLimiters α := ⟨.zero, .zero, .zero, .zero⟩

def ExitConditions.zero : ExitConditions α := ⟨⟨0, 0, 0, 0⟩, ⟨0, 0, 0, 0⟩, (0, 0), (0, 0)⟩

def State.initial : State α :=
  ⟨.standing, .start, .zero, .both .zero, 0, 0, 0, 0, .safe⟩

end Defaults

/-- The captured values in the order in which they are listed. -/
def ExitConditions.fields (e : ExitConditions α) : List (String × α) :=
  [("qe_sl", e.stance.q), ("re_sl", e.stance.r), ("dqe_sl", e.stance.dq), ("dre_sl", e.stance.dr),
    ("qe_fl", e.flight.q), ("re_fl", e.flight.r), ("dqe_fl", e.flight.dq),
    ("dre_fl", e.flight.dr), ("qe_sm", e.stanceMotor.1), ("re_sm", e.stanceMotor.2),
    ("qe_fm", e.flightMotor.1), ("re_fm", e.flightMotor.2)]

end BoomWalker.SlipWalk
