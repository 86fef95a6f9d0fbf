/-
Fieldbus masters: what the connection asks of the device that sends and receives frames.

A master owns one run of process data, the domain. Configuring it may fail; the cyclic operations do
not answer. `Traced` records every operation that is asked of a master.
-/
import BoomWalker.Fieldbus.Error
import BoomWalker.Fieldbus.Medulla

namespace BoomWalker

/-- How far the slaves have come up. -/
inductive LinkState where
  | init
  | preOp
  | safeOp
  | op
deriving DecidableEq, Repr, Inhabited

namespace LinkState

def name : LinkState → String
  | init => "Init"
  | preOp => "PreOp"
  | safeOp => "SafeOp"
  | op => "Op"

def all : List LinkState := [init, preOp, safeOp, op]

def ofName? (s : String) : Option LinkState := all.find? (·.name == s)

/-- The place in the order of coming up. -/
def rank : LinkState → Nat
  | init => 0
  | preOp => 1
  | safeOp => 2
  | op => 3

end LinkState

/-- An operation that may fail, and changes the master either way. -/
abbrev Setup (M : Type) := ExceptT FieldbusError (StateM M)

class Master (M : Type) where
  createDomain : Setup M Unit
  /-- Configure the slave at a position, of a vendor and with a product code. The answer identifies
  the slave from then on. -/
  slaveConfig : Nat → Nat → Nat → Setup M Nat
  /-- Give a slave a command frame and a state frame of the given lengths in the domain. -/
  configFrames : Nat → Nat → Nat → Setup M FrameOffsets
  /-- Set up a slave's clock: the word that turns it on, its period and the shift of its first pulse
  in nanoseconds. -/
  configClock : Nat → Nat → Nat → Nat → Setup M Unit
  activate : Setup M Unit
  /-- Give the master back. -/
  release : M → M
  /-- Tell the master the time in nanoseconds. -/
  applicationTime : Nat → M → M
  syncReferenceClock : M → M
  syncSlaveClocks : M → M
  queueDomain : M → M
  send : M → M
  receive : M → M
  processDomain : M → M
  linkState : M → LinkState
  domain : M → Bytes
  setDomain : Bytes → M → M

/-- An operation asked of a master. Sending shows the domain that is sent. -/
inductive MasterCall where
  | createDomain
  | slaveConfig (position vendor code : Nat)
  | configFrames (slave outputLength inputLength : Nat)
  | configClock (slave assign period shift : Nat)
  | activate
  | release
  | applicationTime (now : Nat)
  | syncReferenceClock
  | syncSlaveClocks
  | queueDomain
  | send (domain : Bytes)
  | receive
  | processDomain
deriving DecidableEq, Repr

/-- A master and the operations that were asked of it, the latest first. -/
structure Traced (M : Type) where
  master : M
  calls : List MasterCall

namespace Traced

variable {M : Type}

/-- Perform an operation and record it. -/
def call (c : MasterCall) (f : M → M) (t : Traced M) : Traced M := ⟨f t.master, c :: t.calls⟩

/-- Perform an operation that may fail and record it. -/
def setup {β : Type} (c : MasterCall) (f : Setup M β) : Setup (Traced M) β := fun t =>
  let (r, m) := f.run t.master
  (r, ⟨m, c :: t.calls⟩)

instance instMasterTraced [Master M] : Master (Traced M) where
  createDomain := setup .createDomain Master.createDomain
  slaveConfig position vendor code :=
    setup (.slaveConfig position vendor code) (Master.slaveConfig position vendor code)
  configFrames slave output input :=
    setup (.configFrames slave output input) (Master.configFrames slave output input)
  configClock slave assign period shift :=
    setup (.configClock slave assign period shift) (Master.configClock slave assign period shift)
  activate := setup .activate Master.activate
  release := call .release Master.release
  applicationTime now := call (.applicationTime now) (Master.applicationTime now)
  syncReferenceClock := call .syncReferenceClock Master.syncReferenceClock
  syncSlaveClocks := call .syncSlaveClocks Master.syncSlaveClocks
  queueDomain := call .queueDomain Master.queueDomain
  send t := call (.send (Master.domain t.master)) Master.send t
  receive := call .receive Master.receive
  processDomain := call .processDomain Master.processDomain
  linkState t := Master.linkState t.master
  domain t := Master.domain t.master
  setDomain bytes t := { t with master := Master.setDomain bytes t.master }

end Traced

end BoomWalker
