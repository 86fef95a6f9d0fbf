/-
A simulated fieldbus with a simulated rig.

A frame that was sent is copied, and delivered when the domain is processed. Each slave then reads
its command from the copy, moves its leg if the command says so, and writes its state into the
domain. Slaves exchange frames once they are operational, some frames after the activation. The time
that the master is told is not kept, because nothing on the simulated bus reads it.
-/
import BoomWalker.Fieldbus.Master
import BoomWalker.Fieldbus.Sim.Plant
import BoomWalker.Word

namespace BoomWalker

/-- A slave on the simulated bus. -/
structure SimSlave where
  position : Nat
  side : Side
  offsets : Option FrameOffsets
  clocked : Bool
  /-- Counter of the updates of its state frame. -/
  counter : UInt16
deriving Repr, Inhabited

/-- The slave after it has updated its state frame. -/
def SimSlave.updated (s : SimSlave) : SimSlave := { s with counter := s.counter + 1 }

/-- The simulated rig, and what its slaves have received. -/
structure SimRig (α : Type) where
  snapshot : Snapshot α
  /-- The last command that each leg received. -/
  last : Sided (Option (CommandFrame α))
  numSends : Nat
  /-- Synchronisations of the reference clock. -/
  numSyncs : Nat
  released : Bool

/-- What the slave of a leg reports of the rig. -/
def SimRig.frame {α : Type} (rig : SimRig α) (s : Side) (counter : UInt16) : StateFrame α :=
  ⟨rig.snapshot.legs.get s, rig.snapshot.position, counter⟩

/-- A simulated master with its bus. -/
structure SimMaster (α : Type) where
  params : SimParams α
  /-- Time between frames, in seconds. -/
  period : α
  domain : Option Bytes
  /-- Copy of the domain taken when it was sent last. -/
  inFlight : Bytes
  sent : Bool
  received : Bool
  slaves : List SimSlave
  active : Bool
  /-- Frames processed since the activation, as far as a word counts. -/
  numFrames : Nat
  rig : SimRig α
  /-- Did a frame or a copy no longer fit the domain? Nothing is promised after that. -/
  broken : Bool

namespace SimMaster

variable {α : Type}

/-! ## The rig -/

def leg (m : SimMaster α) (s : Side) : LegState α := m.rig.snapshot.legs.get s

/-- The last command that a leg received. -/
def lastCommand (m : SimMaster α) (s : Side) : Option (CommandFrame α) := m.rig.last.get s

def setLeg (s : Side) (l : LegState α) (m : SimMaster α) : SimMaster α :=
  { m with rig.snapshot.legs := m.rig.snapshot.legs.set s l }

def setPosition (p : BodyPosition α) (m : SimMaster α) : SimMaster α :=
  { m with rig.snapshot.position := p }

/-! ## Configuring -/

/-- How far the slaves have come up after a number of frames. -/
def linkState (m : SimMaster α) : LinkState :=
  if ¬ m.active then .init
  else if m.params.linkUpCycles ≤ m.numFrames then .op
  else if m.params.linkUpCycles / 2 ≤ m.numFrames then .safeOp
  else .preOp

def createDomain (m : SimMaster α) : Except FieldbusError Unit × SimMaster α :=
  (.ok (), { m with domain := some [] })

/-- The slave at a position, which must be on the bus. The slave at the first position is the left
leg. -/
def slaveConfig (position : Nat) (m : SimMaster α) : Except FieldbusError Nat × SimMaster α :=
  if position < m.params.numSlaves then
    let side := if position = 0 then Side.left else Side.right
    (.ok m.slaves.length, { m with slaves := m.slaves ++ [⟨position, side, none, false, 0⟩] })
  else (.error (.slaveConfigFailed position), m)

/-- Identifiers are shown as words of 16 bits. -/
def shown (slave : Nat) : Nat := slave % (Word.max16 + 1)

/-- Append a slave's frames to the domain. -/
def configFrames (slave output input : Nat) (m : SimMaster α) :
    Except FieldbusError FrameOffsets × SimMaster α :=
  match m.slaves[slave]?, m.domain with
  | none, _ => (.error (.frameConfigFailed (shown slave)), m)
  | some s, none => (.error (.frameConfigFailed s.position), m)
  | some s, some d =>
    if output = CommandFrame.length ∧ input = StateFrame.length then
      let offsets : FrameOffsets := ⟨d.length, d.length + output⟩
      (.ok offsets, { m with
        domain := some (d ++ List.replicate (output + input) 0)
        slaves := m.slaves.set slave { s with offsets := some offsets } })
    else (.error (.frameConfigFailed s.position), m)

/-- Set up a slave's clock, whose shift is at most its period. -/
def configClock (slave period shift : Nat) (m : SimMaster α) :
    Except FieldbusError Unit × SimMaster α :=
  match m.slaves[slave]? with
  | none => (.error (.clockConfigFailed (shown slave)), m)
  | some s =>
    if 0 < period ∧ shift ≤ period then
      (.ok (), { m with slaves := m.slaves.set slave { s with clocked := true } })
    else (.error (.clockConfigFailed s.position), m)

/-- Is the slave ready to be activated? -/
def SimSlave.ready (s : SimSlave) : Bool := s.offsets.isSome && s.clocked

def activate (m : SimMaster α) : Except FieldbusError Unit × SimMaster α :=
  match m.domain with
  | none => (.error .activationFailed, m)
  | some d =>
    if m.slaves.all SimSlave.ready then
      (.ok (), { m with inFlight := List.replicate d.length 0, active := true, numFrames := 0 })
    else (.error .activationFailed, m)

def release (m : SimMaster α) : SimMaster α :=
  { m with active := false, domain := none, rig.released := true }

/-! ## Cycling -/

/-- Send a copy of the domain. -/
def send (m : SimMaster α) : SimMaster α :=
  if m.active then
    let m := { m with rig.numSends := m.rig.numSends + 1 }
    match m.domain with
    | none => m
    | some d =>
      if d.length = m.inFlight.length then { m with inFlight := d, sent := true }
      else { m with broken := true }
  else m

def receive (m : SimMaster α) : SimMaster α := { m with received := m.sent, sent := false }

/-- Count a frame that was received. The count stays at the largest word once it is there. -/
def count (m : SimMaster α) : SimMaster α :=
  { m with received := false, numFrames := min (m.numFrames + 1) Word.max32 }

variable [Scalar α] [Transmit α]

/-- A leg in a frame whose command it reads. Only the code for running moves it. -/
def driven (m : SimMaster α) (c : CommandFrame α) (leg : LegState α) : LegState α :=
  if c.code = .run then Plant.step m.params m.period c.currents leg else leg

/-- The rig when a leg has read its command. -/
def serve (m : SimMaster α) (s : Side) (c : CommandFrame α) (rig : SimRig α) : SimRig α :=
  { rig with
    snapshot.legs := rig.snapshot.legs.set s (m.driven c (rig.snapshot.legs.get s))
    last := rig.last.set s (some c) }

/-- One slave's part in the exchange: the slave, the rig and the domain after it, unless a frame does
not fit. -/
def exchangeOne (m : SimMaster α) (s : SimSlave) (rig : SimRig α) (domain : Bytes) :
    Option (SimSlave × SimRig α × Bytes) :=
  match s.offsets with
  | none => some (s, rig, domain)
  | some o => do
    let c ← CommandFrame.ofBytes? (← Bytes.window? o.output CommandFrame.length m.inFlight)
    let s := s.updated
    let rig := m.serve s.side c rig
    if o.input + StateFrame.length ≤ domain.length then
      some (s, rig, Bytes.overwrite o.input (rig.frame s.side s.counter).toBytes domain)
    else none

/-- The parts of several slaves in the exchange, in order. -/
def exchangeAll (m : SimMaster α) :
    List SimSlave → SimRig α → Bytes → Option (List SimSlave × SimRig α × Bytes)
  | [], rig, domain => some ([], rig, domain)
  | s :: ss, rig, domain => do
    let (s, rig, domain) ← m.exchangeOne s rig domain
    let (ss, rig, domain) ← exchangeAll m ss rig domain
    return (s :: ss, rig, domain)

/-- Deliver the frame in flight. -/
def exchange (m : SimMaster α) : SimMaster α :=
  match m.domain with
  | none => m
  | some d =>
    match m.exchangeAll m.slaves m.rig d with
    | none => { m with broken := true }
    | some (slaves, rig, d) => { m with slaves, rig, domain := some d }

/-- Process a frame that was received: count it, and deliver it once the slaves are operational. -/
def processDomain (m : SimMaster α) : SimMaster α :=
  if m.received then
    let m := m.count
    if m.linkState = .op then m.exchange else m
  else m

/-- Request the master of an index, of which there is only the first. -/
def request (index : Nat) (params : SimParams α) (period : α) :
    Except FieldbusError (SimMaster α) :=
  if index = 0 then
    .ok ⟨params, period, none, [], false, false, [], false, 0,
      ⟨.zero, .both none, 0, 0, false⟩, false⟩
  else .error (.masterUnavailable index)

instance instMasterSim : Master (SimMaster α) where
  createDomain := fun m => m.createDomain
  slaveConfig position _ _ := fun m => m.slaveConfig position
  configFrames slave output input := fun m => m.configFrames slave output input
  configClock slave _ period shift := fun m => m.configClock slave period shift
  activate := fun m => m.activate
  release := release
  applicationTime _ m := m
  syncReferenceClock m := { m with rig.numSyncs := m.rig.numSyncs + 1 }
  syncSlaveClocks m := m
  queueDomain m := m
  send := send
  receive := receive
  processDomain := processDomain
  linkState := linkState
  domain m := m.domain.getD []
  setDomain bytes m := { m with domain := m.domain.map fun _ => bytes }

end SimMaster

end BoomWalker
