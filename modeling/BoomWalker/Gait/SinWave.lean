/-
Sine wave: angle and length of both legs follow independent sine waves about a centre pose. It
serves to identify the leg dynamics and to tune the position gains.
-/
import BoomWalker.Gait.Basic
import BoomWalker.Motion.LegKinematics
import BoomWalker.Motion.Pd

namespace BoomWalker.SinWave

variable {α : Type}

/-- A sine wave about an offset. -/
structure Wave (α : Type) where
  amplitude : α
  /-- In hertz. -/
  frequency : α
  offset : α

structure Params (α : Type) where
  leg : LegKinematics α
  centreAngle : α
  centreLength : α
  /-- Hip angle held on both legs. -/
  hipTarget : α

structure Input (α : Type) where
  angleAmplitude : α
  angleFrequency : α
  lengthAmplitude : α
  lengthFrequency : α
  legKp : α
  legKd : α
  hipKp : α
  hipKd : α

structure Report (α : Type) where
  elapsed : α
  legAngle : α
  legLength : α

structure State (α : Type) where
  /-- Time since the gait was enabled. -/
  elapsed : α
  report : Report α
  output : Command α

/-- Positions and velocities at which the two motors of each leg are tracked. -/
structure MotorTargets (α : Type) where
  posA : α
  posB : α
  velA : α
  velB : α

variable [Scalar α]

/-- Position and velocity of a wave at time `t`. -/
def Wave.eval (w : Wave α) (t : α) : α × α :=
  let omega := 2 * Scalar.pi * w.frequency
  (w.offset + w.amplitude * Scalar.sin (omega * t),
    w.amplitude * omega * Scalar.cos (omega * t))

def Params.standard : Params α := ⟨.standard, Scalar.halfPi, 0.85, 3 * Scalar.halfPi⟩

def Input.standard : Input α := ⟨0.1, 0.5, 0.05, 0.5, 600, 20, 150, 10⟩

def angleWave (p : Params α) (i : Input α) : Wave α :=
  ⟨i.angleAmplitude, i.angleFrequency, p.centreAngle⟩

def lengthWave (p : Params α) (i : Input α) : Wave α :=
  ⟨i.lengthAmplitude, i.lengthFrequency, p.centreLength⟩

/-- Motor targets of an angle wave and a length wave at time `t`. -/
def motorTargets (kine : LegKinematics α) (angle length : Wave α) (t : α) : MotorTargets α :=
  let q := angle.eval t
  let r := length.eval t
  let pos := kine.legPosToMotorPos q.1 r.1
  let vel := kine.legVelToMotorVel r.1 q.2 r.2
  ⟨pos.1, pos.2, vel.1, vel.2⟩

/-- Track the targets on one leg and hold its hip. -/
def trackLeg (p : Params α) (i : Input α) (t : MotorTargets α) (leg : LegState α) :
    LegCurrents α :=
  let legPd : Pd α := ⟨i.legKp, i.legKd⟩
  let hipPd : Pd α := ⟨i.hipKp, i.hipKd⟩
  ⟨legPd.track t.posA leg.a.motorAngle t.velA leg.a.motorVelocity,
    legPd.track t.posB leg.b.motorAngle t.velB leg.b.motorVelocity,
    hipPd.track p.hipTarget leg.hip.angle 0 leg.hip.velocity⟩

def evaluate (p : Params α) (period : α) (snap : Snapshot α) (i : Input α) (s : State α) :
    State α × Command α :=
  let targets := motorTargets p.leg (angleWave p i) (lengthWave p i) s.elapsed
  let output : Command α := ⟨snap.legs.map (trackLeg p i targets), .run⟩
  let report : Report α :=
    ⟨s.elapsed, ((angleWave p i).eval s.elapsed).1, ((lengthWave p i).eval s.elapsed).1⟩
  (⟨s.elapsed + period, report, output⟩, output)

def log (s : State α) : Record α :=
  [("leg_angle", .real s.report.legAngle), ("leg_length", .real s.report.legLength),
    ("l_current_a", .real s.output.legs.left.a), ("l_current_b", .real s.output.legs.left.b),
    ("r_current_a", .real s.output.legs.right.a), ("r_current_b", .real s.output.legs.right.b)]

def gait : Gait α where
  Params := Params α
  Input := Input α
  State := State α
  Report := Report α
  name := "sin_wave"
  defaultParams := Params.standard
  defaultInput := Input.standard
  initial := ⟨0, ⟨0, 0, 0⟩, .safe⟩
  configure := fun _ s => s
  reset := fun _ _ s => { s with elapsed := 0, output := .safe }
  onEnable := fun _ _ s => { s with elapsed := 0 }
  evaluate := evaluate
  report := State.report
  log := log

end BoomWalker.SinWave
