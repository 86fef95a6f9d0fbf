/-
One control cycle of SLIP walking.

Stance legs track the force of a virtual spring. The flight leg follows cubic splines in angle and
length whose domain is the stance leg angle, so the swing is paced by the stance. A touchdown with
the flight toe still behind the stance toe is counted and otherwise ignored.
-/
import BoomWalker.Gait.SlipWalk.Basic
import BoomWalker.Motion.CubicSpline

namespace BoomWalker.SlipWalk

variable {α : Type} [Scalar α]

/-- Leg kinematics with the spring rate that the operator entered. -/
def kinematics (p : Params α) (i : Input α) : LegKinematics α :=
  { p.leg with springRate := i.robotSpring }

def forceTracker (p : Params α) (i : Input α) : LegForce α :=
  ⟨kinematics p i, p.drive, i.forceKp, i.forceKd⟩

def legPd (i : Input α) : Pd α := ⟨i.legKp, i.legKd⟩

def hipPd (i : Input α) : Pd α := ⟨i.hipKp, i.hipKd⟩

/-! ## Limiters and exit conditions -/

/-- Seed the motor limiters of a leg from its measured motor angles. -/
def LegLimiters.seedMotors (l : LegLimiters α) (leg : LegState α) : LegLimiters α :=
  { l with motorA := ⟨leg.a.motorAngle⟩, motorB := ⟨leg.b.motorAngle⟩ }

/-- Seed the hip limiter of a leg from its measured hip angle. -/
def LegLimiters.seedHip (l : LegLimiters α) (leg : LegState α) : LegLimiters α :=
  { l with hip := ⟨leg.hip.angle⟩ }

def seedMotors (snap : Snapshot α) (ls : Sided (LegLimiters α)) : Sided (LegLimiters α) :=
  .ofFn fun side => (ls.get side).seedMotors (snap.legs.get side)

def seedHips (snap : Snapshot α) (ls : Sided (LegLimiters α)) : Sided (LegLimiters α) :=
  .ofFn fun side => (ls.get side).seedHip (snap.legs.get side)

/-- The legs as they stand, with the given leg in stance. -/
def ExitConditions.capture (kine : LegKinematics α) (snap : Snapshot α) (stance : Side) :
    ExitConditions α :=
  let sl := snap.legs.get stance
  let fl := snap.legs.get stance.opposite
  let sm := kine.motorSidePolar sl
  let fm := kine.motorSidePolar fl
  ⟨kine.legSidePolar sl, kine.legSidePolar fl, (sm.q, sm.r), (fm.q, fm.r)⟩

/-- Capture the legs, and seed both rest length limiters from the lengths before the springs. -/
def State.captureExit (s : State α) (kine : LegKinematics α) (snap : Snapshot α)
    (stance : Side) : State α :=
  { s with
    exit := .capture kine snap stance
    limiters := .ofFn fun side =>
      { s.limiters.get side with
        restLength := ⟨(kine.motorSidePolar (snap.legs.get side)).r⟩ } }

/-! ## Controllers -/

/-- What a controller makes of one leg: the limiters it moved, and the currents of motors A
and B. -/
structure LegDrive (α : Type) where
  limiters : LegLimiters α
  a : α
  b : α

/-- Hold the leg upright at the rest length of the spring. -/
def standLeg (p : Params α) (i : Input α) (period : α) (lim : LegLimiters α) (leg : LegState α) :
    LegDrive α :=
  let target := (kinematics p i).legPosToMotorPos Scalar.halfPi i.slipLeg
  let maxDelta := RateLimiter.maxDelta p.legRateLimit period
  let motorA := lim.motorA.apply target.1 maxDelta
  let motorB := lim.motorB.apply target.2 maxDelta
  ⟨{ lim with motorA, motorB },
    (legPd i).track motorA.value leg.a.motorAngle 0 leg.a.motorVelocity,
    (legPd i).track motorB.value leg.b.motorAngle 0 leg.b.motorVelocity⟩

/-- Force and force rate of a virtual spring of stiffness `k` and rest length `r0`, where `dk` is
the rate of the stiffness. -/
def springForce (k dk r0 : α) (sl : LegPolar α) : ToeForce α :=
  let sinQ := Scalar.sin sl.q
  let cosQ := Scalar.cos sl.q
  { fx := -k * (sl.r - r0) * cosQ
    dfx := dk * cosQ * (r0 - sl.r) - sl.dr * cosQ * k + sl.dq * sinQ * k * (sl.r - r0)
    fz := k * (sl.r - r0) * sinQ
    dfz := sl.dr * sinQ * k - dk * sinQ * (r0 - sl.r) + sl.dq * cosQ * k * (sl.r - r0) }

/-- The force that a stance leg should exert at the limited rest length `r0`. The rate of the
stiffness is too noisy on the rig and is left out. -/
def stanceForce (kine : LegKinematics α) (r0 : α) (leg : LegState α) : ToeForce α :=
  let sl := kine.legSidePolar leg
  springForce (kine.legStiffness sl.r sl.dr r0).1 0 r0 sl

/-- Track the force of the virtual leg spring. -/
def stanceLeg (p : Params α) (i : Input α) (period : α) (lim : LegLimiters α) (leg : LegState α) :
    LegDrive α :=
  let restLength := lim.restLength.apply i.slipLeg (RateLimiter.maxDelta p.springRateLimit period)
  let force := stanceForce (kinematics p i) restLength.value leg
  let currents := (forceTracker p i).control force leg
  ⟨{ lim with restLength }, currents.1, currents.2⟩

/-- Angle and length of the swinging leg with their rates, as a function of the stance leg: the
angle goes from its exit value to the target, and the length retracts over the first half of the
stance domain and extends over the second. -/
def swingPolar (p : Params α) (i : Input α) (e : ExitConditions α) (sl : LegPolar α) : LegPolar α :=
  let endSlope := p.swingEndVelocity / (i.stanceTarget - e.stance.q)
  let angle : CubicSpline α :=
    ⟨e.stance.q, i.stanceTarget, e.flight.q, i.flightTarget, 0, endSlope⟩
  let retracted := i.slipLeg - i.swingRetraction
  let middle := (e.stance.q + i.stanceTarget) / 2
  let length : CubicSpline α :=
    if sl.q ≤ middle then ⟨e.stance.q, middle, e.flight.r, retracted, 0, 0⟩
    else ⟨middle, i.stanceTarget, retracted, i.slipLeg, 0, 0⟩
  let q := angle.evalMoving sl.q sl.dq
  let r := length.evalMoving sl.q sl.dq
  ⟨q.1, r.1, q.2, r.2⟩

/-- Positions and velocities of motors A and B along the swing. -/
def swingTargets (p : Params α) (i : Input α) (e : ExitConditions α) (sl : LegPolar α) :
    (α × α) × (α × α) :=
  let swing := swingPolar p i e sl
  let kine := kinematics p i
  (kine.legPosToMotorPos swing.q swing.r, kine.legVelToMotorVel swing.r swing.dq swing.dr)

/-- Swing the flight leg along splines over the angle of the stance leg. -/
def swingLeg (p : Params α) (i : Input α) (e : ExitConditions α) (stance : LegState α)
    (lim : LegLimiters α) (leg : LegState α) : LegDrive α :=
  let (pos, vel) := swingTargets p i e ((kinematics p i).legSidePolar stance)
  ⟨lim, (legPd i).track pos.1 leg.a.motorAngle vel.1 leg.a.motorVelocity,
    (legPd i).track pos.2 leg.b.motorAngle vel.2 leg.b.motorVelocity⟩

/-- Damp the motors of a leg. -/
def dampLeg (i : Input α) (lim : LegLimiters α) (leg : LegState α) : LegDrive α :=
  ⟨lim, (legPd i).damp leg.a.motorVelocity, (legPd i).damp leg.b.motorVelocity⟩

/-- What each leg does in a mode and phase. -/
def driveLeg (p : Params α) (i : Input α) (period : α) (snap : Snapshot α) (s : State α)
    (side : Side) : LegDrive α :=
  let lim := s.limiters.get side
  let leg := snap.legs.get side
  match s.mode, s.phase with
  | .standing, _ => standLeg p i period lim leg
  | .shutdown, _ => dampLeg i lim leg
  | .walking, .double _ => stanceLeg p i period lim leg
  | .walking, .single stance =>
    if side = stance then stanceLeg p i period lim leg
    else swingLeg p i s.exit (snap.legs.get stance) lim leg

/-! ## Events -/

/-- The flight leg bears load and its toe is low enough. -/
def touchesDown (p : Params α) (i : Input α) (stance flight : LegState α) : Bool :=
  let sl := (kinematics p i).legSidePolar stance
  let fl := (kinematics p i).legSidePolar flight
  let force := (forceTracker p i).compute flight
  force.fz ≤ -i.touchdownForce ∧
    sl.r * Scalar.sin sl.q - i.touchdownHeight ≤ fl.r * Scalar.sin fl.q

/-- The flight toe is level with the stance toe or ahead of it. -/
def isForwardStep (p : Params α) (i : Input α) (stance flight : LegState α) : Bool :=
  let sl := (kinematics p i).legSidePolar stance
  let fl := (kinematics p i).legSidePolar flight
  sl.r * Scalar.cos sl.q ≤ fl.r * Scalar.cos fl.q

/-- The trailing leg bears little load. -/
def takesOff (p : Params α) (i : Input α) (flight : LegState α) : Bool :=
  -i.takeoffForce ≤ ((forceTracker p i).compute flight).fz

/-- How a walking cycle ends. -/
inductive Event where
  /-- The phase goes on. -/
  | hold
  /-- The flight leg touched down behind the stance leg. -/
  | ignored
  /-- The next phase begins. -/
  | transition
deriving DecidableEq, Repr

/-- The event of a walking cycle in a phase. A takeoff of the stance leg in single support means
that the robot bounces, and no action is taken. -/
def detect (p : Params α) (i : Input α) (snap : Snapshot α) (phase : Phase) : Event :=
  let stance := snap.legs.get phase.stance
  let flight := snap.legs.get phase.flight
  match phase with
  | .single _ =>
    if touchesDown p i stance flight || i.manualTouchdown then
      if isForwardStep p i stance flight then .transition else .ignored
    else .hold
  | .double _ => if takesOff p i flight || i.manualTakeoff then .transition else .hold

/-- Record the forces seen, and follow the event. -/
def State.follow (s : State α) (p : Params α) (i : Input α) (snap : Snapshot α) : State α :=
  let tracker := forceTracker p i
  let s := { s with
    stanceFz := (tracker.compute (snap.legs.get s.phase.stance)).fz
    flightFz := (tracker.compute (snap.legs.get s.phase.flight)).fz }
  match detect p i snap s.phase with
  | .hold => s
  | .ignored => { s with numIgnored := s.numIgnored + 1 }
  | .transition =>
    { s with phase := s.phase.next, numTransitions := s.numTransitions + 1 }.captureExit
      (kinematics p i) snap s.phase.stance

/-! ## The cycle -/

/-- Enter the selected mode. The limiters are seeded anew by the mode that is left: those of the
motors unless it was standing, those of the hips if it was shutdown. -/
def State.enterMode (s : State α) (snap : Snapshot α) (mode : Mode) : State α :=
  let ls := if s.mode = .standing then s.limiters else seedMotors snap s.limiters
  let ls := if s.mode = .shutdown then seedHips snap ls else ls
  { s with mode, limiters := ls }

/-- Move the hip limiters towards the angles that keep the toes at their radii. -/
def State.moveHips (s : State α) (p : Params α) (i : Input α) (period : α) (snap : Snapshot α) :
    State α :=
  let target := p.hip.inverse (kinematics p i) p.toeRadius snap.legs snap.position
  let maxDelta := RateLimiter.maxDelta p.hipRateLimit period
  { s with limiters := .ofFn fun side =>
      { s.limiters.get side with hip := (s.limiters.get side).hip.apply (target.get side) maxDelta } }

/-- Current of a hip: it tracks the limited target, or is only damped in shutdown. -/
def hipCurrent (i : Input α) (mode : Mode) (lim : LegLimiters α) (leg : LegState α) : α :=
  match mode with
  | .shutdown => (hipPd i).damp leg.hip.velocity
  | _ => (hipPd i).track lim.hip.value leg.hip.angle 0 leg.hip.velocity

/-- The bias on the stance leg in single support, if the operator asks for it. -/
def addBias (p : Params α) (i : Input α) (mode : Mode) (phase : Phase) (side : Side)
    (c : LegCurrents α) : LegCurrents α :=
  match mode, phase with
  | .walking, .single stance =>
    if i.debug ∧ side = stance then { c with a := c.a + p.debugBias, b := c.b + p.debugBias } else c
  | _, _ => c

/-- After the controllers: standing begins the walking cycle anew, walking follows its events. -/
def State.conclude (s : State α) (p : Params α) (i : Input α) (snap : Snapshot α) : State α :=
  match s.mode with
  | .standing => { s with phase := .start }.captureExit (kinematics p i) snap .right
  | .walking => s.follow p i snap
  | .shutdown => s

def evaluate (p : Params α) (period : α) (snap : Snapshot α) (i : Input α) (s : State α) :
    State α × Command α :=
  let s := (s.enterMode snap (Mode.ofSelector i.mainController)).moveHips p i period snap
  let drive : Sided (LegDrive α) := .ofFn (driveLeg p i period snap s)
  let output : Command α :=
    ⟨.ofFn fun side =>
      addBias p i s.mode s.phase side
        ⟨(drive.get side).a, (drive.get side).b,
          hipCurrent i s.mode (s.limiters.get side) (snap.legs.get side)⟩, .run⟩
  ({ s with limiters := drive.map LegDrive.limiters, output }.conclude p i snap, output)

def reset (p : Params α) (snap : Snapshot α) (s : State α) : State α :=
  { s with
    mode := .standing
    phase := .start
    limiters := seedHips snap (seedMotors snap s.limiters)
    output := .safe }.captureExit p.leg snap .right

def onEnable (snap : Snapshot α) (s : State α) : State α :=
  { s with limiters := seedHips snap (seedMotors snap s.limiters) }

def configure (s : State α) : State α :=
  { s with limiters := s.limiters.map fun l =>
      { l with restLength := ⟨(Input.standard : Input α).slipLeg⟩ } }

def report (s : State α) : Report α :=
  ⟨s.mode, s.phase, s.numTransitions, s.numIgnored, s.stanceFz, s.flightFz, s.exit⟩

def log (s : State α) : Record α :=
  [("mode", .index s.mode.index), ("phase", .index s.phase.index), ("stance_fz", .real s.stanceFz),
    ("flight_fz", .real s.flightFz), ("qe_sl", .real s.exit.stance.q),
    ("qe_fl", .real s.exit.flight.q), ("re_fl", .real s.exit.flight.r)] ++
    currentColumns s.output

def gait : Gait α where
  Params := Params α
  Input := Input α
  State := State α
  Report := Report α
  name := "slip_walk"
  defaultParams := Params.standard
  defaultInput := Input.standard
  initial := State.initial
  configure := fun _ s => configure s
  reset := reset
  onEnable := fun _ => onEnable
  evaluate := evaluate
  report := report
  log := log

end BoomWalker.SlipWalk
