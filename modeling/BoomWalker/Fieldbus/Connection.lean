/-
The connection to the two legs over a fieldbus master.

A connection and any number of command handles share the master and the codecs of the legs: this is
the `Link`. A cycle sends the domain, leaves the link to the handles while the frame travels, and
then receives it. States are decoded from the second cycle on in which the slaves are operational.
The link outlives the connection: a handle goes on sending after the connection has been closed.
Each operation on the link is one turn, which nothing breaks off, and cycles are counted without a
bound (`Word`).
-/
import BoomWalker.Fieldbus.ClockShift
import BoomWalker.Fieldbus.Master

namespace BoomWalker

/-- What a connection shares with its command handles. -/
structure Link (M : Type) where
  master : M
  slaves : List Medulla
  /-- Were the slaves operational in the last cycle? -/
  inOp : Bool
  released : Bool

/-- A connection that drives the periodic cycle. -/
structure Connection (M α : Type) where
  params : FieldbusParams α
  link : Link M
  /-- Cycles since the reference clock was synchronised. -/
  syncCounter : Nat
  /-- The state decoded last. -/
  snapshot : Snapshot α
  running : Bool
  numCycles : Nat

/-- Why a connection was not made. -/
inductive ConfigureError where
  | bus (e : FieldbusError)
  /-- The time of the first pulse cannot be computed. -/
  | clockOverflow
deriving DecidableEq, Repr

variable {M α : Type} [Master M]

/-! ## Configuring -/

namespace Connection

/-- The codecs of the legs for given offsets, left leg first. The boom encoders are wired to the
left. -/
def medullas (offsets : List FrameOffsets) : List Medulla :=
  [Side.left, Side.right].zipWith (fun s o => Medulla.new s (s == .left) o) offsets

/-- The first part of configuring: the domain, the slaves and their frames. -/
def configureSlaves (p : FieldbusParams α) : Setup M (List Nat × List FrameOffsets) := do
  Master.createDomain
  let ids ← p.productCodes.zipIdx.mapM fun (code, i) => Master.slaveConfig i p.vendor code
  let offsets ← (ids.take 2).mapM fun id =>
    Master.configFrames id CommandFrame.length StateFrame.length
  return (ids, offsets)

/-- The second part of configuring: the clocks. -/
def configureClocks (p : FieldbusParams α) (ids : List Nat) (shift : Nat) : Setup M Unit :=
  ids.forM fun id => Master.configClock id p.clockAssign p.cyclePeriod shift

variable [Scalar α]

/-- Configure a master, at the given time in nanoseconds. A failure releases the master. -/
def configure (p : FieldbusParams α) (now : Nat) (m : M) :
    Except ConfigureError (Connection M α) × M :=
  match p.check with
  | .error e => (.error (.bus (.invalidParams e)), Master.release m)
  | .ok () =>
    match (configureSlaves p).run m with
    | (.error e, m) => (.error (.bus e), Master.release m)
    | (.ok (ids, offsets), m) =>
      let m := Master.applicationTime now m
      match Clock.shift? p.cyclePeriod p.clockOffset now with
      | none => (.error .clockOverflow, m)
      | some shift =>
        match (configureClocks p ids shift).run m with
        | (.error e, m) => (.error (.bus e), Master.release m)
        | (.ok (), m) => (.ok ⟨p, ⟨m, medullas offsets, false, false⟩, 0, .zero, false, 0⟩, m)

end Connection

/-! ## Submitting -/

/-- Write a command for every leg into the domain. -/
def Medulla.encodeAll [Transmit α] (c : Command α) :
    List Medulla → Bytes → List Medulla × Bytes
  | [], domain => ([], domain)
  | m :: ms, domain =>
    let (m, domain) := m.encode c domain
    let (ms, domain) := encodeAll c ms domain
    (m :: ms, domain)

/-- Read the states of all legs into a snapshot. -/
def Medulla.decodeAll [Transmit α] (domain : Bytes) :
    List Medulla → Snapshot α → List Medulla × Snapshot α
  | [], s => ([], s)
  | m :: ms, s =>
    let (m, s, _) := m.decode domain s
    let (ms, s) := decodeAll domain ms s
    (m :: ms, s)

/-- Send a command straight away. -/
def Link.submit [Transmit α] (l : Link M) (c : Command α) : Link M :=
  let (slaves, domain) := Medulla.encodeAll c l.slaves (Master.domain l.master)
  let m := Master.setDomain domain l.master
  { l with master := Master.send (Master.queueDomain m), slaves }

/-! ## Cycling -/

namespace Connection

/-- Activate the master and begin cycling. -/
def start (c : Connection M α) : Except FieldbusError Unit × Connection M α :=
  match (Master.activate : Setup M Unit).run c.link.master with
  | (.error e, m) => (.error e, { c with link := { c.link with master := m } })
  | (.ok (), m) =>
    (.ok (), { c with
      link := { c.link with master := m, inOp := false }, running := true, syncCounter := 0 })

/-- The first half of a cycle, at the given time in nanoseconds: send the domain. -/
def sendPhase (c : Connection M α) (now : Nat) : Connection M α :=
  let sync := c.params.refClockCycles ≤ c.syncCounter + 1
  let m := Master.applicationTime now c.link.master
  let m := if sync then Master.syncReferenceClock m else m
  let m := Master.send (Master.queueDomain (Master.syncSlaveClocks m))
  { c with
    link := { c.link with master := m }
    syncCounter := if sync then 0 else c.syncCounter + 1
    numCycles := c.numCycles + 1 }

/-- The second half of a cycle: receive the domain, and decode it if the slaves were operational in
this cycle and the one before. -/
def receivePhase [Transmit α] (c : Connection M α) : Option (Snapshot α) × Connection M α :=
  let m := Master.processDomain (Master.receive c.link.master)
  let link := { c.link with master := m }
  if Master.linkState m = .op then
    if c.link.inOp then
      let (slaves, snapshot) := Medulla.decodeAll (Master.domain m) link.slaves c.snapshot
      (some snapshot, { c with link := { link with slaves }, snapshot })
    else
      let slaves := link.slaves.map (·.postOp (Master.domain m))
      (none, { c with link := { link with slaves, inOp := true } })
  else (none, { c with link := { link with inOp := false } })

/-- Send a command straight away. -/
def submit [Transmit α] (c : Connection M α) (cmd : Command α) : Connection M α :=
  { c with link := c.link.submit cmd }

/-- One cycle, with the commands that handles submit while the frame travels. -/
def cycle [Transmit α] (c : Connection M α) (now : Nat) (between : List (Command α)) :
    Except FieldbusError (Option (Snapshot α)) × Connection M α :=
  if c.running then
    let (s, c) := (between.foldl submit (c.sendPhase now)).receivePhase
    (.ok s, c)
  else (.error .notRunning, c)

/-- Stop cycling. The master stays configured. -/
def stop (c : Connection M α) : Connection M α := { c with running := false }

/-- Close the connection and release the master. The link is left to the handles. -/
def cleanup (c : Connection M α) : Link M :=
  if c.link.released then c.link
  else { c.link with master := Master.release c.link.master, released := true }

end Connection

/-! ## Connections and handles over time -/

/-- A connection with its handles, or the handles that are left. -/
inductive Bus (M α : Type) where
  | connected (c : Connection M α)
  | closed (l : Link M)

/-- What may be asked of a connection or a handle. -/
inductive BusEvent (α : Type) where
  | start
  | cycle (now : Nat) (between : List (Command α))
  | submit (c : Command α)
  | stop
  | cleanup

/-- The answer to an event. -/
inductive BusReply (α : Type) where
  | done
  | failed (e : FieldbusError)
  | state (s : Option (Snapshot α))
  /-- There is no connection any more. -/
  | closed

namespace Bus

/-- The link of a connection and its handles. -/
def link : Bus M α → Link M
  | connected c => c.link
  | closed l => l

variable [Transmit α]

/-- Answer an event. -/
def step : Bus M α → BusEvent α → Bus M α × BusReply α
  | connected c, .start =>
    match c.start with
    | (.ok (), c) => (connected c, .done)
    | (.error e, c) => (connected c, .failed e)
  | connected c, .cycle now between =>
    match c.cycle now between with
    | (.ok s, c) => (connected c, .state s)
    | (.error e, c) => (connected c, .failed e)
  | connected c, .submit cmd => (connected (c.submit cmd), .done)
  | connected c, .stop => (connected c.stop, .done)
  | connected c, .cleanup => (closed c.cleanup, .done)
  | closed l, .submit cmd => (closed (l.submit cmd), .done)
  | closed l, _ => (closed l, .closed)

/-- Answer a list of events. -/
def run : Bus M α → List (BusEvent α) → Bus M α × List (BusReply α)
  | b, [] => (b, [])
  | b, e :: es =>
    let (b, r) := b.step e
    let (b, rs) := run b es
    (b, r :: rs)

end Bus

end BoomWalker
