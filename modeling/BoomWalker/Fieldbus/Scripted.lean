/-
A master that follows a script: which of its operations fail, where the frames stand, and how the
link and the domain change with each frame that is processed.
-/
import BoomWalker.Fieldbus.Master

namespace BoomWalker

structure ScriptedMaster where
  /-- Does an operation of the configuration fail? -/
  fails : MasterCall → Bool
  /-- Where the frames of a slave stand. -/
  offsets : Nat → FrameOffsets
  /-- Link states after the frames to come; the last one stays. -/
  links : List LinkState
  link : LinkState
  bytes : Bytes
  /-- Bytes that the next frame puts into the domain, each at a place. -/
  arriving : List (Nat × Bytes)

namespace ScriptedMaster

/-- An operation that answers, or fails if the script says so. -/
def attempt {β : Type} (c : MasterCall) (e : FieldbusError) (b : β) : Setup ScriptedMaster β := do
  if (← get).fails c then throw e else return b

/-- Process a frame. -/
def process (m : ScriptedMaster) : ScriptedMaster :=
  { m with
    link := m.links.headD m.link
    links := m.links.tail
    bytes := m.arriving.foldl (fun bytes p => Bytes.put p.1 p.2 bytes) m.bytes
    arriving := [] }

instance instMasterScripted : Master ScriptedMaster where
  createDomain := attempt .createDomain .domainCreationFailed ()
  slaveConfig position vendor code :=
    attempt (.slaveConfig position vendor code) (.slaveConfigFailed position) position
  configFrames slave output input := do
    attempt (.configFrames slave output input) (.frameConfigFailed slave)
      ((← get).offsets slave)
  configClock slave assign period shift :=
    attempt (.configClock slave assign period shift) (.clockConfigFailed slave) ()
  activate := attempt .activate .activationFailed ()
  release m := m
  applicationTime _ m := m
  syncReferenceClock m := m
  syncSlaveClocks m := m
  queueDomain m := m
  send m := m
  receive m := m
  processDomain := process
  linkState m := m.link
  domain m := m.bytes
  setDomain bytes m := { m with bytes }

end ScriptedMaster

end BoomWalker
