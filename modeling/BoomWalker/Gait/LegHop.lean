/-
Single leg hopping: the left leg hops while the right leg is held clear of the ground.

Stance is selected while the torso is lower than the rest length of a virtual pendulum, or by the
operator. In stance the left leg is driven to produce a force, either a constant one or that of the
pendulum integrated alongside the real leg. In flight both legs are held upright and the pendulum
is seeded anew for the next touchdown.
-/
import BoomWalker.Gait.Basic
import BoomWalker.Motion.LegForce
import BoomWalker.Motion.Pd
import BoomWalker.Motion.Slip

namespace BoomWalker.LegHop

variable {α : Type}

structure Params (α : Type) where
  leg : LegKinematics α
  /-- Fixed step of the pendulum's integration, independent of the control cycle. -/
  slipStep : α
  /-- Length of the right leg as a fraction of the length of the left. -/
  lengthRatio : α

structure Input (α : Type) where
  /-- Rest length of the pendulum, and the torso height below which stance is selected. -/
  slipLeg : α
  /-- Apex height that fixes the touchdown velocity. -/
  slipHeight : α
  slipSpring : α
  slipMass : α
  /-- Rotational stiffness of the rig's leg springs. -/
  robotSpring : α
  fy : α
  fz : α
  constantForce : Bool
  slipForce : Bool
  stanceKp : α
  stanceKd : α
  flightKp : α
  flightKd : α
  hipKp : α
  hipKd : α
  /-- Hold both hips at `hipAngle`. -/
  constantHip : Bool
  /-- Hold each hip at its own target. -/
  advancedHip : Bool
  hipAngle : α
  leftHipTarget : α
  rightHipTarget : α
  /-- The first of these forces stance; the others only select what is traced. -/
  debug1 : Bool
  debug2 : Bool
  debug3 : Bool
  debug4 : Bool

inductive Phase where
  | flight
  | stance
deriving DecidableEq, Repr, Inhabited

structure Report (α : Type) where
  phase : Phase
  fy : α
  fz : α
  slipR : α
  numTouchdowns : Nat

structure State (α : Type) where
  phase : Phase
  /-- The pendulum carried through stance. -/
  slip : SlipState α
  /-- Commanded force, horizontal and vertical. -/
  force : α × α
  numTouchdowns : Nat
  /-- Force and pendulum length of the last evaluated cycle. -/
  reportedForce : α × α
  reportedR : α
  output : Command α

def Phase.index : Phase → Nat
  | flight => 0
  | stance => 1

def Phase.name : Phase → String
  | flight => "Flight"
  | stance => "Stance"

variable [Scalar α]

/-- Stance below the rest length, or by force. -/
def Phase.select (height slipLeg : α) (forceStance : Bool) : Phase :=
  if height < slipLeg ∨ forceStance then stance else flight

def Params.standard : Params α := ⟨.standard, 0.001, 0.85⟩

def Input.standard : Input α where
  slipLeg := 0.9
  slipHeight := 0.05
  slipSpring := 15000
  slipMass := 60
  robotSpring := 1600
  fy := 0
  fz := 0
  constantForce := false
  slipForce := false
  stanceKp := 600
  stanceKd := 20
  flightKp := 600
  flightKd := 20
  hipKp := 150
  hipKd := 10
  constantHip := false
  advancedHip := false
  hipAngle := 3 * Scalar.halfPi
  leftHipTarget := 3 * Scalar.halfPi
  rightHipTarget := 3 * Scalar.halfPi
  debug1 := false
  debug2 := false
  debug3 := false
  debug4 := false

/-- The pendulum at touchdown, after a fall from the apex height. -/
def touchdown (i : Input α) : SlipState α :=
  ⟨i.slipLeg, -Scalar.sqrt (2 * Scalar.abs standardGravity * i.slipHeight), Scalar.halfPi, 0⟩

def model (i : Input α) : SlipModel α := .onSite i.slipSpring i.slipLeg i.slipMass

/-- The pendulum after a stance cycle and the force commanded for it. Past the rest length the mass
is back in the air: the pendulum rests and there is no force. -/
def stanceForce (p : Params α) (i : Input α) (slip : SlipState α) : SlipState α × (α × α) :=
  if i.constantForce then (slip, (i.fy, i.fz))
  else if i.slipForce then
    if i.slipLeg < slip.r then (slip, (0, 0))
    else
      let next := (model i).step slip p.slipStep
      (next, (model i).radialForce next)
  else (slip, (0, 0))

/-- Motor angles at which the spring deflections of a leg produce a force. -/
def deflectionTargets (p : Params α) (i : Input α) (leg : LegState α) (force : α × α) : α × α :=
  let l := p.leg.segLength
  let ma := leg.a.motorAngle
  let mb := leg.b.motorAngle
  let jacobian : Mat2 α :=
    ⟨l * Scalar.sin ma, -l * Scalar.sin mb, l * Scalar.cos ma, -l * Scalar.cos mb⟩
  let tau := jacobian.transpose.apply (force.2, force.1)
  (leg.a.legAngle + tau.1 / i.robotSpring, leg.b.legAngle + tau.2 / i.robotSpring)

/-- The pose of the right leg in stance: that of the left at a shorter length. -/
def followTargets (p : Params α) (leg : LegState α) : α × α :=
  let pos := p.leg.motorPosToLegPos leg.a.legAngle leg.b.legAngle
  p.leg.legPosToMotorPos pos.1 (pos.2 * p.lengthRatio)

/-- Hold a pair of motor angles. -/
def hold (g : Pd α) (target : α × α) (leg : LegState α) : α × α :=
  (g.track target.1 leg.a.motorAngle 0 leg.a.motorVelocity,
    g.track target.2 leg.b.motorAngle 0 leg.b.motorVelocity)

/-- Hip targets, if the hips are held at all. -/
def hipTargets (i : Input α) : Option (Sided α) :=
  if i.constantHip then some (.both i.hipAngle)
  else if i.advancedHip then some ⟨i.leftHipTarget, i.rightHipTarget⟩
  else none

def hipCurrents (i : Input α) (legs : Sided (LegState α)) : Sided α :=
  match hipTargets i with
  | none => .both 0
  | some target =>
    let g : Pd α := ⟨i.hipKp, i.hipKd⟩
    .ofFn fun side =>
      g.track (target.get side) (legs.get side).hip.angle 0 (legs.get side).hip.velocity

def stancePd (i : Input α) : Pd α := ⟨i.stanceKp, i.stanceKd⟩

def flightPd (i : Input α) : Pd α := ⟨i.flightKp, i.flightKd⟩

/-- The currents of motors A and B of each leg in a phase, under the commanded force. -/
def legCurrents (p : Params α) (i : Input α) (legs : Sided (LegState α)) (force : α × α) :
    Phase → Sided (α × α)
  | .stance =>
    ⟨hold (stancePd i) (deflectionTargets p i legs.left force) legs.left,
      hold (flightPd i) (followTargets p legs.left) legs.right⟩
  | .flight =>
    ⟨hold (flightPd i) (p.leg.legPosToMotorPos Scalar.halfPi i.slipLeg) legs.left,
      hold (flightPd i) (p.leg.legPosToMotorPos Scalar.halfPi (i.slipLeg * p.lengthRatio))
        legs.right⟩

/-- Pendulum and commanded force after a cycle in a phase. -/
def advance (p : Params α) (i : Input α) (slip : SlipState α) : Phase → SlipState α × (α × α)
  | .stance => stanceForce p i slip
  | .flight => (touchdown i, (0, 0))

def evaluate (p : Params α) (_period : α) (snap : Snapshot α) (i : Input α) (s : State α) :
    State α × Command α :=
  let phase := Phase.select snap.position.height i.slipLeg i.debug1
  let landed := phase = .stance ∧ s.phase ≠ .stance
  let (slip, force) := advance p i s.slip phase
  let motors := legCurrents p i snap.legs force phase
  let hips := hipCurrents i snap.legs
  let output : Command α :=
    ⟨.ofFn fun side => ⟨(motors.get side).1, (motors.get side).2, hips.get side⟩, .run⟩
  ({ phase, slip, force
     numTouchdowns := if landed then s.numTouchdowns + 1 else s.numTouchdowns
     reportedForce := force, reportedR := slip.r, output }, output)

def reset (s : State α) : State α :=
  { s with phase := .flight, slip := touchdown .standard, force := (0, 0), output := .safe }

def log (s : State α) : Record α :=
  [("phase", .index s.phase.index), ("fy", .real s.force.1), ("fz", .real s.force.2),
    ("slip_r", .real s.slip.r), ("slip_dr", .real s.slip.dr), ("slip_q", .real s.slip.q),
    ("slip_dq", .real s.slip.dq)] ++ currentColumns s.output

def gait : Gait α where
  Params := Params α
  Input := Input α
  State := State α
  Report := Report α
  name := "leg_hop"
  defaultParams := Params.standard
  defaultInput := Input.standard
  initial := ⟨.flight, .zero, (0, 0), 0, (0, 0), 0, .safe⟩
  configure := fun _ s => { s with slip := touchdown .standard }
  reset := fun _ _ s => reset s
  onEnable := fun _ _ s => s
  evaluate := evaluate
  report := fun s => ⟨s.phase, s.reportedForce.1, s.reportedForce.2, s.reportedR, s.numTouchdowns⟩
  log := log

end BoomWalker.LegHop
