/-
The controller's side of a leg's electronics: which part of the process data belongs to the leg, the
watchdog that goes out with every command, and the counter by which frames that were not updated are
told.
-/
import BoomWalker.Fieldbus.Frame

namespace BoomWalker

/-- Where the frames of a slave stand in the process data. -/
structure FrameOffsets where
  /-- Start of the command frame. -/
  output : Nat
  /-- Start of the state frame. -/
  input : Nat
deriving DecidableEq, Repr, Inhabited

/-- The codec of one leg. -/
structure Medulla where
  side : Side
  /-- Are the boom encoders wired to this leg? -/
  carriesPosition : Bool
  offsets : FrameOffsets
  /-- Counter sent with the last command. -/
  watchdog : UInt16
  /-- Counter of the last state frame. -/
  lastCounter : UInt16
  /-- State frames in which the counter had not moved. -/
  numStale : Nat
deriving DecidableEq, Repr, Inhabited

namespace Medulla

variable {α : Type} [Transmit α]

def new (side : Side) (carriesPosition : Bool) (offsets : FrameOffsets) : Medulla :=
  ⟨side, carriesPosition, offsets, 0, 0, 0⟩

/-- The bytes of the leg's state frame, if they lie within the process data. -/
def stateBytes? (m : Medulla) (domain : Bytes) : Option Bytes :=
  Bytes.window? m.offsets.input StateFrame.length domain

/-- Start over when the link has come up: take the present counter for the last one. -/
def postOp (m : Medulla) (domain : Bytes) : Medulla :=
  let counter := (m.stateBytes? domain).bind StateFrame.counter?
  { m with lastCounter := counter.getD m.lastCounter, watchdog := 0, numStale := 0 }

/-- Put the leg's state into a snapshot. The flag tells whether the slave has updated its frame since
the last time. -/
def decode (m : Medulla) (domain : Bytes) (s : Snapshot α) : Medulla × Snapshot α × Bool :=
  match (m.stateBytes? domain).bind StateFrame.ofBytes? with
  | none => (m, s, false)
  | some f =>
    let fresh := f.counter ≠ m.lastCounter
    ({ m with lastCounter := f.counter, numStale := if fresh then m.numStale else m.numStale + 1 },
      { legs := s.legs.set m.side f.leg
        position := if m.carriesPosition then f.position else s.position },
      fresh)

/-- Write the leg's part of a command into the process data, with the watchdog moved on. -/
def encode (m : Medulla) (c : Command α) (domain : Bytes) : Medulla × Bytes :=
  if m.offsets.output + CommandFrame.length ≤ domain.length then
    let watchdog := m.watchdog + 1
    let frame : CommandFrame α := ⟨c.code, watchdog, c.legs.get m.side⟩
    ({ m with watchdog }, Bytes.overwrite m.offsets.output frame.toBytes domain)
  else (m, domain)

end Medulla

end BoomWalker
