/-
What a connection asks of its master, with the answers.

`Recorded` wraps a master and keeps every operation that is asked of it together with its answer, in
order. A connection cannot tell it from the master itself: `configure_recorded` says so for making
the connection, and `run_recorded` for everything that is asked of the connection and its handles
later on. What the record shows is therefore what every master is asked.
-/
import BoomWalker.Proofs.Fieldbus.Phases

namespace BoomWalker

/-- The answer of a master to an operation. -/
inductive MasterAnswer where
  | done
  /-- The identifier of a slave. -/
  | slave (id : Nat)
  /-- The place of a slave's frames. -/
  | frames (offsets : FrameOffsets)
  | failed (e : FieldbusError)
deriving DecidableEq, Repr

/-- An operation that was asked of a master, and its answer. -/
abbrev MasterEntry := MasterCall × MasterAnswer

/-- A master and what was asked of it, in order. -/
structure Recorded (M : Type) where
  master : M
  record : List MasterEntry

variable {M α β γ : Type}

namespace Recorded

/-- A master of which nothing was asked yet. -/
def unasked (m : M) : Recorded M := ⟨m, []⟩

/-- Perform an operation that does not answer. -/
def tell (call : MasterCall) (f : M → M) (r : Recorded M) : Recorded M :=
  ⟨f r.master, r.record ++ [(call, .done)]⟩

/-- Perform an operation that answers or fails. -/
def ask (call : MasterCall) (answer : β → MasterAnswer) (x : Setup M β) : Setup (Recorded M) β :=
  fun r =>
    match x.run r.master with
    | (.ok b, m) => (.ok b, ⟨m, r.record ++ [(call, answer b)]⟩)
    | (.error e, m) => (.error e, ⟨m, r.record ++ [(call, .failed e)]⟩)

section Ask

variable {call : MasterCall} {answer : β → MasterAnswer} {x : Setup M β} {r : Recorded M} {m : M}

theorem ask_ok {b : β} (h : x.run r.master = (.ok b, m)) :
    (ask call answer x).run r = (.ok b, ⟨m, r.record ++ [(call, answer b)]⟩) := by
  change ask call answer x r = _
  unfold ask
  rw [h]

theorem ask_error {e : FieldbusError} (h : x.run r.master = (.error e, m)) :
    (ask call answer x).run r = (.error e, ⟨m, r.record ++ [(call, .failed e)]⟩) := by
  change ask call answer x r = _
  unfold ask
  rw [h]

end Ask

instance instMasterRecorded [Master M] : Master (Recorded M) where
  createDomain := ask .createDomain (fun _ => .done) Master.createDomain
  slaveConfig position vendor code :=
    ask (.slaveConfig position vendor code) .slave (Master.slaveConfig position vendor code)
  configFrames slave output input :=
    ask (.configFrames slave output input) .frames (Master.configFrames slave output input)
  configClock slave assign period shift :=
    ask (.configClock slave assign period shift) (fun _ => .done)
      (Master.configClock slave assign period shift)
  activate := ask .activate (fun _ => .done) Master.activate
  release := tell .release Master.release
  applicationTime now := tell (.applicationTime now) (Master.applicationTime now)
  syncReferenceClock := tell .syncReferenceClock Master.syncReferenceClock
  syncSlaveClocks := tell .syncSlaveClocks Master.syncSlaveClocks
  queueDomain := tell .queueDomain Master.queueDomain
  send r := tell (.send (Master.domain r.master)) Master.send r
  receive := tell .receive Master.receive
  processDomain := tell .processDomain Master.processDomain
  linkState r := Master.linkState r.master
  domain r := Master.domain r.master
  setDomain bytes r := { r with master := Master.setDomain bytes r.master }

end Recorded

/-! ## Sequences of operations -/

namespace Setup

/-- A sequence goes on from what its first part leaves behind, or fails with it. -/
theorem run_bind (x : Setup M β) (f : β → Setup M γ) (m : M) :
    (x >>= f).run m =
      match x.run m with
      | (.ok b, m') => (f b).run m'
      | (.error e, m') => (.error e, m') := by
  rw [ExceptT.run_bind]
  simp only [bind, StateT.bind]
  cases x.run m with
  | mk answer m' =>
    cases answer with
    | error e => rfl
    | ok b => rfl

/-- A sequence on a recorded master goes as one on the master itself. -/
def Unseen (x : Setup (Recorded M) β) (y : Setup M β) : Prop :=
  ∀ r, y.run r.master = ((x.run r).1, (x.run r).2.master)

theorem Unseen.ask (call : MasterCall) (answer : β → MasterAnswer) (x : Setup M β) :
    Unseen (Recorded.ask call answer x) x := by
  intro r
  cases hx : x.run r.master with
  | mk given m =>
    cases given with
    | error e => rw [Recorded.ask_error hx]
    | ok b => rw [Recorded.ask_ok hx]

theorem Unseen.pure (b : β) : Unseen (Pure.pure b : Setup (Recorded M) β) (Pure.pure b) :=
  fun _ => rfl

theorem Unseen.bind {x : Setup (Recorded M) β} {y : Setup M β} {f : β → Setup (Recorded M) γ}
    {g : β → Setup M γ} (hx : Unseen x y) (hf : ∀ b, Unseen (f b) (g b)) :
    Unseen (x >>= f) (y >>= g) := by
  intro r
  rw [run_bind, run_bind, hx r]
  cases x.run r with
  | mk given r' =>
    cases given with
    | error e => rfl
    | ok b => exact hf b r'

theorem Unseen.mapM {f : β → Setup (Recorded M) γ} {g : β → Setup M γ}
    (h : ∀ b, Unseen (f b) (g b)) (bs : List β) : Unseen (bs.mapM f) (bs.mapM g) := by
  induction bs with
  | nil => exact Unseen.pure []
  | cons b bs ih =>
    rw [List.mapM_cons, List.mapM_cons]
    exact (h b).bind fun c => ih.bind fun cs => Unseen.pure (c :: cs)

theorem Unseen.forM {f : β → Setup (Recorded M) PUnit} {g : β → Setup M PUnit}
    (h : ∀ b, Unseen (f b) (g b)) (bs : List β) : Unseen (bs.forM f) (bs.forM g) := by
  induction bs with
  | nil => exact Unseen.pure PUnit.unit
  | cons b bs ih => exact (h b).bind fun _ => ih

end Setup

/-! ## Forgetting the record -/

/-- The link to the master itself. -/
def Link.unrecorded (l : Link (Recorded M)) : Link M := { l with master := l.master.master }

/-- The connection to the master itself. -/
def Connection.unrecorded (c : Connection (Recorded M) α) : Connection M α :=
  { c with link := c.link.unrecorded }

/-- The bus over the master itself. -/
def Bus.unrecorded : Bus (Recorded M) α → Bus M α
  | connected c => connected c.unrecorded
  | closed l => closed l.unrecorded

variable [Master M]

namespace Connection

theorem configureSlaves_unseen (p : FieldbusParams α) :
    Setup.Unseen (configureSlaves p : Setup (Recorded M) _) (configureSlaves p) :=
  (Setup.Unseen.ask .createDomain (fun _ => .done) Master.createDomain).bind fun _ =>
    (Setup.Unseen.mapM (fun _ => Setup.Unseen.ask _ .slave _) _).bind fun ids =>
      (Setup.Unseen.mapM (fun _ => Setup.Unseen.ask _ .frames _) _).bind fun offsets =>
        Setup.Unseen.pure (ids, offsets)

theorem configureClocks_unseen (p : FieldbusParams α) (ids : List Nat) (shift : Nat) :
    Setup.Unseen (configureClocks p ids shift : Setup (Recorded M) _)
      (configureClocks p ids shift) :=
  Setup.Unseen.forM (fun _ => Setup.Unseen.ask _ (fun _ => .done) _) ids

/-- Recording changes neither the outcome of configuring nor the master. -/
theorem configure_recorded [Scalar α] (p : FieldbusParams α) (now : Nat) (r : Recorded M) :
    configure p now r.master =
      ((configure p now r).1.map unrecorded, (configure p now r).2.master) := by
  unfold configure
  cases p.check with
  | error e => rfl
  | ok _ =>
    dsimp only
    rw [configureSlaves_unseen p r]
    cases (configureSlaves p).run r with
    | mk slaves r₁ =>
      cases slaves with
      | error e => rfl
      | ok found =>
        dsimp only
        cases Clock.shift? p.cyclePeriod p.clockOffset now with
        | none => rfl
        | some shift =>
          dsimp only
          have hclocks := configureClocks_unseen p found.1 shift
            (Master.applicationTime now r₁)
          have htime : (Master.applicationTime now r₁).master =
              Master.applicationTime now r₁.master := rfl
          rw [htime] at hclocks
          rw [hclocks]
          cases (configureClocks p found.1 shift).run (Master.applicationTime now r₁) with
          | mk clocks r₂ =>
            cases clocks with
            | error e => rfl
            | ok _ => rfl

/-! ## Events -/

theorem start_recorded (c : Connection (Recorded M) α) :
    c.unrecorded.start = (c.start.1, c.start.2.unrecorded) := by
  have hunseen : (Master.activate : Setup M Unit).run c.unrecorded.link.master =
      (((Master.activate : Setup (Recorded M) Unit).run c.link.master).1,
        ((Master.activate : Setup (Recorded M) Unit).run c.link.master).2.master) :=
    Setup.Unseen.ask .activate (fun _ => .done) Master.activate c.link.master
  obtain ⟨e, r, hactivate, hstart⟩ | ⟨r, hactivate, hstart⟩ := c.start_cases
  · rw [hactivate] at hunseen
    rw [hstart]
    unfold start
    rw [hunseen]
    rfl
  · rw [hactivate] at hunseen
    rw [hstart]
    unfold start
    rw [hunseen]
    rfl

theorem sendPhase_recorded (c : Connection (Recorded M) α) (now : Nat) :
    c.unrecorded.sendPhase now = (c.sendPhase now).unrecorded := by
  by_cases hsync : c.params.refClockCycles ≤ c.syncCounter + 1
  · have hsync' : c.unrecorded.params.refClockCycles ≤ c.unrecorded.syncCounter + 1 := hsync
    simp only [sendPhase, if_pos hsync, if_pos hsync']
    rfl
  · have hsync' : ¬ c.unrecorded.params.refClockCycles ≤ c.unrecorded.syncCounter + 1 := hsync
    simp only [sendPhase, if_neg hsync, if_neg hsync']
    rfl

theorem cleanup_recorded (c : Connection (Recorded M) α) :
    c.unrecorded.cleanup = c.cleanup.unrecorded := by
  have hreleased : c.unrecorded.link.released = c.link.released := rfl
  unfold cleanup
  rw [hreleased]
  cases c.link.released with
  | true => rfl
  | false => rfl

variable [Transmit α]

theorem submits_recorded (c : Connection (Recorded M) α) (cmds : List (Command α)) :
    cmds.foldl submit c.unrecorded = (cmds.foldl submit c).unrecorded := by
  induction cmds generalizing c with
  | nil => rfl
  | cons cmd cmds ih => exact ih (c.submit cmd)

theorem receivePhase_recorded (c : Connection (Recorded M) α) :
    c.unrecorded.receivePhase = (c.receivePhase.1, c.receivePhase.2.unrecorded) := by
  have hlink : Master.linkState (Master.processDomain (Master.receive c.unrecorded.link.master)) =
      Master.linkState (Master.processDomain (Master.receive c.link.master)) := rfl
  have hup : c.unrecorded.link.inOp = c.link.inOp := rfl
  unfold receivePhase
  dsimp only
  rw [hlink, hup]
  by_cases hop : Master.linkState (Master.processDomain (Master.receive c.link.master)) = .op
  · rw [if_pos hop, if_pos hop]
    cases c.link.inOp with
    | true => rfl
    | false => rfl
  · rw [if_neg hop, if_neg hop]
    rfl

theorem cycle_recorded (c : Connection (Recorded M) α) (now : Nat) (between : List (Command α)) :
    c.unrecorded.cycle now between =
      ((c.cycle now between).1, (c.cycle now between).2.unrecorded) := by
  cases hrunning : c.running with
  | true =>
    have hunderway : c.unrecorded.underway now between = (c.underway now between).unrecorded := by
      unfold underway
      rw [sendPhase_recorded, submits_recorded]
    rw [cycle_of_running hrunning, cycle_of_running (c := c.unrecorded) hrunning, hunderway,
      receivePhase_recorded]
  | false =>
    rw [cycle_of_stopped hrunning, cycle_of_stopped (c := c.unrecorded) hrunning]

end Connection

namespace Bus

variable [Transmit α]

theorem step_recorded (b : Bus (Recorded M) α) (e : BusEvent α) :
    b.unrecorded.step e = ((b.step e).1.unrecorded, (b.step e).2) := by
  cases b with
  | closed l => cases e <;> rfl
  | connected c =>
    change (connected c.unrecorded).step e = _
    cases e with
    | start =>
      have hstart := c.start_recorded
      obtain ⟨e, r, -, hfailed⟩ | ⟨r, -, hstarted⟩ := c.start_cases
      · rw [hfailed] at hstart
        rw [step_start_error hstart, step_start_error hfailed]
        rfl
      · rw [hstarted] at hstart
        rw [step_start_ok hstart, step_start_ok hstarted]
        rfl
    | cycle now between =>
      have hcycle := c.cycle_recorded now between
      cases hrunning : c.running with
      | true =>
        have hreceived := Connection.cycle_of_running hrunning now between
        rw [hreceived] at hcycle
        rw [step_cycle_ok hcycle, step_cycle_ok hreceived]
        rfl
      | false =>
        have hrefused := Connection.cycle_of_stopped hrunning now between
        rw [hrefused] at hcycle
        rw [step_cycle_error hcycle, step_cycle_error hrefused]
        rfl
    | submit cmd => rfl
    | stop => rfl
    | cleanup => exact Prod.ext (congrArg closed c.cleanup_recorded) rfl

/-- Recording changes neither the answers of a bus nor its master. -/
theorem run_recorded (b : Bus (Recorded M) α) (es : List (BusEvent α)) :
    b.unrecorded.run es = ((b.run es).1.unrecorded, (b.run es).2) := by
  induction es generalizing b with
  | nil => rfl
  | cons e es ih =>
    simp only [run]
    rw [step_recorded, ih]

end Bus

end BoomWalker
