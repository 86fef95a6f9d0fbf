/-
What is done to a simulated bus of two slaves, operation by operation.

A master is activated, its domain is written to and it is cycled, in any order; and the rig is moved
by hand. The slaves exchange a frame in the operation that processes it while they are operational,
and the frame is the copy of the domain that was taken when it was sent (`exchanged?`).

Main statement: a leg moves in the exchanges only, each time by the command that its own window of
the frame holds (`leg_run`). No frame or copy ever fails to fit the domain (`Laid.run`).
-/
import BoomWalker.Proofs.Fieldbus.SimSetup

namespace BoomWalker

variable {α : Type}

/-! ## Commands in a frame -/

section Commands

variable [Transmit α]

/-- Bytes of the length of a command frame hold a command. -/
theorem CommandFrame.exists_command {bytes : Bytes} (h : bytes.length = length) :
    ∃ c : CommandFrame α, ofBytes? bytes = some c := by
  match bytes, h with
  | code :: bytes, h =>
    have hall : bytes.length = 14 := Nat.succ.inj h
    obtain ⟨watchdog, after, hword, -, hafter⟩ := Bytes.exists_word16? bytes (by omega)
    obtain ⟨ws, rest, hws, hread, -, -⟩ := Bytes.exists_scalars? α 3 after (by omega)
    obtain ⟨a, b, hip, rfl⟩ := List.length_eq_three.mp hws
    unfold ofBytes?
    simp only [hword, hread, Option.bind_eq_bind, Option.bind_some]
    exact ⟨_, rfl⟩

/-- The command of a leg in a frame. -/
def Side.command? (s : Side) (frame : Bytes) : Option (CommandFrame α) :=
  (s.commandWindow frame).bind CommandFrame.ofBytes?

theorem Side.exists_command (s : Side) {frame : Bytes} (h : frame.length = domainLength) :
    ∃ c : CommandFrame α, s.command? frame = some c := by
  have hfits : s.frameOffsets.output + CommandFrame.length ≤ frame.length := h ▸ s.output_fits
  have hlength : ((frame.drop s.frameOffsets.output).take CommandFrame.length).length =
      CommandFrame.length := by
    rw [List.length_take, List.length_drop]
    omega
  obtain ⟨c, hc⟩ := CommandFrame.exists_command (α := α) hlength
  exact ⟨c, Option.bind_eq_some_iff.mpr ⟨_, if_pos hfits, hc⟩⟩

end Commands

namespace SimMaster

/-! ## Operations -/

/-- What can be asked of a configured master, and done to its rig by hand. -/
inductive Operation (α : Type) where
  | activate
  /-- The bytes of the domain are changed. -/
  | write (bytes : Bytes)
  | send
  | receive
  | processDomain
  | syncReferenceClock
  | setLeg (s : Side) (l : LegState α)
  | setPosition (p : BodyPosition α)

/-- The domain keeps its length when it is written to. -/
def Operation.Fits : Operation α → Prop
  | write bytes => bytes.length = Side.domainLength
  | _ => True

/-- The operation does not move a leg by hand. -/
def Operation.Spares (s : Side) : Operation α → Prop
  | setLeg t _ => t ≠ s
  | _ => True

section Operations

variable [Scalar α] [Transmit α]

/-- The master after an operation. -/
def perform (m : SimMaster α) : Operation α → SimMaster α
  | .activate => m.activate.2
  | .write bytes => Master.setDomain bytes m
  | .send => m.send
  | .receive => m.receive
  | .processDomain => m.processDomain
  | .syncReferenceClock => Master.syncReferenceClock m
  | .setLeg s l => m.setLeg s l
  | .setPosition p => m.setPosition p

/-- The frame that the slaves exchange in an operation. -/
def exchanged? (m : SimMaster α) : Operation α → Option Bytes
  | .processDomain => if m.received = true ∧ m.count.linkState = .op then some m.inFlight else none
  | _ => none

/-- The master after some operations. -/
def run (m : SimMaster α) (ops : List (Operation α)) : SimMaster α := ops.foldl perform m

/-- The frames that the slaves exchange in some operations. -/
def exchanges (m : SimMaster α) : List (Operation α) → List Bytes
  | [] => []
  | op :: ops => (m.exchanged? op).toList ++ (m.perform op).exchanges ops

end Operations

theorem active_of_op (m : SimMaster α) (hop : m.linkState = .op) : m.active = true := by
  by_contra hdown
  have hinit : m.linkState = .init := if_pos hdown
  rw [hinit] at hop
  cases hop

section Operations

variable [Scalar α] [Transmit α]

/-- A frame that is processed is exchanged, or it is only counted, or there is none. -/
theorem processDomain_cases (m : SimMaster α) :
    (m.exchanged? .processDomain = some m.inFlight ∧ m.active = true ∧
      m.processDomain = m.count.exchange) ∨
    (m.exchanged? .processDomain = none ∧ (m.processDomain = m.count ∨ m.processDomain = m)) := by
  unfold exchanged? processDomain
  by_cases hreceived : m.received = true
  · by_cases hop : m.count.linkState = .op
    · exact .inl ⟨if_pos ⟨hreceived, hop⟩, m.count.active_of_op hop,
        (if_pos hreceived).trans (if_pos hop)⟩
    · exact .inr ⟨if_neg fun h => hop h.2, .inl ((if_pos hreceived).trans (if_neg hop))⟩
  · exact .inr ⟨if_neg fun h => hreceived h.1, .inr (if_neg hreceived)⟩

/-- The parameters of the plant stay as they are. -/
theorem perform_keeps (m : SimMaster α) (op : Operation α) :
    (m.perform op).params = m.params ∧ (m.perform op).period = m.period := by
  cases op with
  | activate =>
    unfold SimMaster.perform SimMaster.activate
    dsimp only
    split
    · exact ⟨rfl, rfl⟩
    · split <;> exact ⟨rfl, rfl⟩
  | send =>
    unfold SimMaster.perform SimMaster.send
    dsimp only
    split
    · split
      · exact ⟨rfl, rfl⟩
      · split <;> exact ⟨rfl, rfl⟩
    · exact ⟨rfl, rfl⟩
  | processDomain =>
    show m.processDomain.params = _ ∧ m.processDomain.period = _
    obtain ⟨-, -, h⟩ | ⟨-, h | h⟩ := m.processDomain_cases <;> rw [h]
    · exact ⟨m.count.exchange_keeps.1, m.count.exchange_keeps.2.1⟩
    · exact ⟨rfl, rfl⟩
    · exact ⟨rfl, rfl⟩
  | write | receive | syncReferenceClock | setLeg | setPosition => exact ⟨rfl, rfl⟩

end Operations

/-! ## The layout of the bus -/

/-- A bus with a slave for each leg, whose frames have their places in the domain and its copy. -/
structure Laid (m : SimMaster α) : Prop where
  unbroken : m.broken = false
  slaves : ∃ counter, List.Forall₂ (SimSlave.Seated counter) [Side.left, Side.right] m.slaves
  domain : ∃ d, m.domain = some d ∧ d.length = Side.domainLength
  copy : m.active = true → m.inFlight.length = Side.domainLength

variable {m : SimMaster α} {s : Side}

theorem Laid.send (h : m.Laid) : m.send.Laid ∧ m.send.leg s = m.leg s := by
  obtain ⟨d, hd, hdomain⟩ := h.domain
  unfold SimMaster.send
  split
  · next hactive =>
    have hfits : d.length = m.inFlight.length := hdomain.trans (h.copy hactive).symm
    simp only [hd, if_pos hfits]
    exact ⟨⟨h.unbroken, h.slaves, ⟨d, rfl, hdomain⟩, fun _ => hdomain⟩, rfl⟩
  · exact ⟨h, rfl⟩

theorem Laid.activate (h : m.Laid) : m.activate.2.Laid ∧ m.activate.2.leg s = m.leg s := by
  obtain ⟨d, hd, hdomain⟩ := h.domain
  obtain ⟨counter, hslaves⟩ := h.slaves
  unfold SimMaster.activate
  simp only [hd, if_pos (all_ready hslaves)]
  have hcopy : (List.replicate d.length (0 : UInt8)).length = Side.domainLength :=
    List.length_replicate.trans hdomain
  exact ⟨⟨h.unbroken, h.slaves, ⟨d, rfl, hdomain⟩, fun _ => hcopy⟩, rfl⟩

theorem Laid.count (h : m.Laid) : m.count.Laid := ⟨h.unbroken, h.slaves, h.domain, h.copy⟩

variable [Scalar α] [Transmit α]

/-- In an exchange every leg reads its own command, and the commands in the domain stay. -/
theorem Laid.exchange (h : m.Laid) (hactive : m.active = true) :
    ∃ (read : Side → CommandFrame α) (slaves : List SimSlave) (domain : Bytes),
      (∀ s : Side, s.command? m.inFlight = some (read s)) ∧
      m.exchange = { m with
        slaves, rig := m.serveAll read [.left, .right] m.rig, domain := some domain } ∧
      m.exchange.Laid ∧
      ∀ s : Side, some (s.commandWindow domain) = m.domain.map s.commandWindow := by
  obtain ⟨d, hd, hdomain⟩ := h.domain
  obtain ⟨counter, hslaves⟩ := h.slaves
  choose read hread using fun s : Side => s.exists_command (α := α) (h.copy hactive)
  obtain ⟨d', hexchange, hupdated, hlength, hcommands, -⟩ :=
    exchange_seated hslaves hread hd hdomain
  refine ⟨read, _, d', hread, hexchange, ?_, fun s => ?_⟩
  · rw [hexchange]
    exact ⟨h.unbroken, ⟨counter + 1, hupdated⟩, ⟨d', rfl, hlength⟩, h.copy⟩
  · rw [hd, hcommands s]
    rfl

omit [Transmit α] in
/-- A leg that has been served is driven by its command. -/
theorem leg_serveAll (m : SimMaster α) (read : Side → CommandFrame α) (s : Side) :
    (m.serveAll read [.left, .right] m.rig).snapshot.legs.get s = m.driven (read s) (m.leg s) := by
  cases s <;> rfl

/-- A leg when it has read its commands in some frames, one after the other. -/
def follow (m : SimMaster α) (s : Side) (frames : List Bytes) (leg : LegState α) : LegState α :=
  (frames.filterMap s.command?).foldl (fun leg c => m.driven c leg) leg

theorem follow_append (m : SimMaster α) (s : Side) (fs gs : List Bytes) (leg : LegState α) :
    m.follow s (fs ++ gs) leg = m.follow s gs (m.follow s fs leg) := by
  rw [follow, List.filterMap_append, List.foldl_append]
  rfl

/-- Only the parameters of the plant matter to how a leg is driven. -/
theorem follow_congr {m m' : SimMaster α} (hparams : m'.params = m.params)
    (hperiod : m'.period = m.period) : m'.follow s = m.follow s := by
  unfold follow driven
  rw [hparams, hperiod]

/-- One operation keeps the layout, and moves a leg in an exchange only, by its own command. -/
theorem Laid.perform (h : m.Laid) {op : Operation α} (hfits : op.Fits) :
    (m.perform op).Laid ∧ (op.Spares s →
      (m.perform op).leg s = m.follow s (m.exchanged? op).toList (m.leg s)) := by
  cases op with
  | activate => exact ⟨h.activate (s := s).1, fun _ => h.activate.2⟩
  | write bytes =>
    obtain ⟨d, hd, -⟩ := h.domain
    refine ⟨⟨h.unbroken, h.slaves, ⟨bytes, ?_, hfits⟩, h.copy⟩, fun _ => rfl⟩
    show m.domain.map _ = _
    rw [hd]
    rfl
  | send => exact ⟨h.send (s := s).1, fun _ => h.send.2⟩
  | processDomain =>
    show m.processDomain.Laid ∧ _
    obtain ⟨hframe, hactive, heq⟩ | ⟨hnone, heq⟩ := m.processDomain_cases
    · obtain ⟨read, slaves, d, hread, hexchange, hlaid, -⟩ := h.count.exchange hactive
      have hcommand : s.command? m.inFlight = some (read s) := hread s
      refine ⟨heq ▸ hlaid, fun _ => ?_⟩
      show m.processDomain.leg s = _
      rw [heq, hexchange, hframe, follow, Option.toList_some, List.filterMap_cons, hcommand]
      exact m.count.leg_serveAll read s
    · refine ⟨?_, fun _ => ?_⟩
      · obtain heq | heq := heq <;> rw [heq]
        · exact h.count
        · exact h
      · show m.processDomain.leg s = _
        rw [hnone]
        obtain heq | heq := heq <;> rw [heq] <;> rfl
  | setLeg t l =>
    refine ⟨⟨h.unbroken, h.slaves, h.domain, h.copy⟩, fun hspares => ?_⟩
    exact Sided.get_set_of_ne _ (Ne.symm hspares) l
  | receive | syncReferenceClock | setPosition =>
    exact ⟨⟨h.unbroken, h.slaves, h.domain, h.copy⟩, fun _ => rfl⟩

/-! ## Runs -/

variable {ops : List (Operation α)}

theorem run_keeps (m : SimMaster α) (ops : List (Operation α)) :
    (m.run ops).params = m.params ∧ (m.run ops).period = m.period := by
  induction ops generalizing m with
  | nil => exact ⟨rfl, rfl⟩
  | cons op ops ih =>
    obtain ⟨hparams, hperiod⟩ := m.perform_keeps op
    obtain ⟨hparams', hperiod'⟩ := ih (m.perform op)
    exact ⟨hparams'.trans hparams, hperiod'.trans hperiod⟩

theorem Laid.run (h : m.Laid) (hfits : ∀ op ∈ ops, op.Fits) : (m.run ops).Laid := by
  induction ops generalizing m with
  | nil => exact h
  | cons op ops ih =>
    obtain ⟨hop, hops⟩ := List.forall_mem_cons.mp hfits
    exact ih (h.perform (s := .left) hop).1 hops

/-- A leg that is not moved by hand follows its own commands in the frames that are exchanged. -/
theorem leg_run (h : m.Laid) (hfits : ∀ op ∈ ops, op.Fits) (hspares : ∀ op ∈ ops, op.Spares s) :
    (m.run ops).leg s = m.follow s (m.exchanges ops) (m.leg s) := by
  induction ops generalizing m with
  | nil => rfl
  | cons op ops ih =>
    obtain ⟨hop, hops⟩ := List.forall_mem_cons.mp hfits
    obtain ⟨hspare, hspares⟩ := List.forall_mem_cons.mp hspares
    obtain ⟨hlaid, hleg⟩ := h.perform (s := s) hop
    obtain ⟨hparams, hperiod⟩ := m.perform_keeps op
    have hrest : ((m.perform op).run ops).leg s =
        m.follow s ((m.perform op).exchanges ops) ((m.perform op).leg s) := by
      rw [← follow_congr hparams hperiod]
      exact ih hlaid hops hspares
    rw [exchanges, follow_append, ← hleg hspare, ← hrest]
    rfl

/-- A configured connection has set up its master in this layout. -/
theorem laid_configured {index : Nat} {sim : SimParams α} {period : α}
    (hrequest : request index sim period = .ok m) {p : FieldbusParams α} {now : Nat}
    {c : Connection (SimMaster α) α} (hconfigured : (Connection.configure p now m).1 = .ok c) :
    c.link.master.Laid ∧ c.link.master.params = sim ∧ c.link.master.period = period := by
  obtain rfl := configure_ok hrequest hconfigured
  cases request_ok hrequest
  exact ⟨⟨rfl, ⟨0, slavePair_seated⟩, ⟨_, rfl, List.length_replicate⟩, Bool.noConfusion⟩, rfl, rfl⟩

end SimMaster

end BoomWalker
