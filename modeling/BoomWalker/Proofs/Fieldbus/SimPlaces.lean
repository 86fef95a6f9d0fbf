/-
A simulated bus with any number of slaves, from its request to its exchanges.

A master is prepared by any configuration operations in any order, some of which may fail, among
them one that creates the domain; then it is activated. Every slave then has its frames within the
domain, and the copy in flight is as long as the domain (`activated`). So every exchange takes
place: each slave finds a command in the copy (`Served`, `Placed.exchange`).

The domain only grows while slaves are configured, so that frames that lie within it stay within it
(`InRoom.prepared`). A second domain would be empty again, and leave the frames outside.
-/
import BoomWalker.Proofs.Fieldbus.SimOperations

namespace BoomWalker

variable {α : Type}

/-! ## Slaves -/

namespace SimSlave

/-- The frames of the slave, if it has any, lie within process data of this length. -/
def Within (length : Nat) (s : SimSlave) : Prop :=
  ∀ o, s.offsets = some o →
    o.output + CommandFrame.length ≤ length ∧ o.input + StateFrame.length ≤ length

theorem Within.mono {n n' : Nat} {s : SimSlave} (h : s.Within n) (hn : n ≤ n') : s.Within n' := by
  intro o ho
  obtain ⟨houtput, hinput⟩ := h o ho
  exact ⟨houtput.trans hn, hinput.trans hn⟩

/-- The slave has frames, and they lie within process data of this length. -/
structure Placed (length : Nat) (s : SimSlave) : Prop where
  framed : s.offsets.isSome = true
  within : s.Within length

theorem Placed.updated {n : Nat} {s : SimSlave} (h : s.Placed n) : s.updated.Placed n :=
  ⟨h.framed, h.within⟩

/-- The command of a slave in a frame. -/
def command? [Transmit α] (frame : Bytes) (s : SimSlave) : Option (CommandFrame α) := do
  let o ← s.offsets
  CommandFrame.ofBytes? (← Bytes.window? o.output CommandFrame.length frame)

theorem Placed.exists_command [Transmit α] {n : Nat} {s : SimSlave} (h : s.Placed n)
    {frame : Bytes} (hframe : frame.length = n) :
    ∃ c : CommandFrame α, s.command? frame = some c := by
  obtain ⟨o, ho⟩ := Option.isSome_iff_exists.mp h.framed
  have hfits : o.output + CommandFrame.length ≤ frame.length := hframe ▸ (h.within o ho).1
  have hlength : ((frame.drop o.output).take CommandFrame.length).length =
      CommandFrame.length := by
    rw [List.length_take, List.length_drop]
    omega
  obtain ⟨c, hc⟩ := CommandFrame.exists_command (α := α) hlength
  refine ⟨c, ?_⟩
  unfold command?
  simp only [ho, Option.bind_eq_bind, Option.bind_some]
  exact Option.bind_eq_some_iff.mpr ⟨_, if_pos hfits, hc⟩

end SimSlave

namespace SimMaster

/-! ## Preparing -/

/-- What is asked of a master before it is activated. -/
inductive Preparation where
  | createDomain
  | slaveConfig (position : Nat)
  | configFrames (slave output input : Nat)
  | configClock (slave period shift : Nat)
deriving DecidableEq

/-- The master after an operation of the configuration, which may fail. -/
def prepare (m : SimMaster α) : Preparation → SimMaster α
  | .createDomain => m.createDomain.2
  | .slaveConfig position => (m.slaveConfig position).2
  | .configFrames slave output input => (m.configFrames slave output input).2
  | .configClock slave period shift => (m.configClock slave period shift).2

/-- The master after some operations of the configuration. -/
def prepared (m : SimMaster α) (calls : List Preparation) : SimMaster α := calls.foldl prepare m

/-- Length of the domain so far. -/
def room (m : SimMaster α) : Nat := (m.domain.getD []).length

/-- Number of domains. -/
def domains (m : SimMaster α) : Nat := m.domain.toList.length

/-- The frames of all slaves lie within the domain. -/
def InRoom (m : SimMaster α) : Prop := ∀ s ∈ m.slaves, s.Within m.room

variable {m m' : SimMaster α} {calls : List Preparation}

theorem domains_prepare {call : Preparation} (hcall : call ≠ .createDomain) :
    (m.prepare call).domains = m.domains := by
  cases call with
  | createDomain => exact absurd rfl hcall
  | slaveConfig position =>
    unfold prepare slaveConfig
    dsimp only
    split <;> rfl
  | configFrames slave output input =>
    unfold prepare configFrames
    dsimp only
    split
    · rfl
    · rfl
    · next hd =>
      split
      · unfold domains
        rw [hd]
        rfl
      · rfl
  | configClock slave period shift =>
    unfold prepare configClock
    dsimp only
    split
    · rfl
    · split <;> rfl

/-- A new domain is no shorter than none at all, and all other operations let the domain grow or
leave it. -/
theorem InRoom.prepare (h : m.InRoom) {call : Preparation}
    (hcall : call = .createDomain → m.domain = none) : (m.prepare call).InRoom := by
  cases call with
  | createDomain =>
    have hroom : m.room = 0 := by
      unfold room
      rw [hcall rfl]
      rfl
    intro s hs
    have hwithin : s.Within 0 := hroom ▸ h s hs
    exact hwithin.mono (Nat.zero_le _)
  | slaveConfig position =>
    unfold SimMaster.prepare slaveConfig
    dsimp only
    split
    · intro s hs
      obtain hs | hs := List.mem_append.mp hs
      · exact h s hs
      · obtain rfl := List.mem_singleton.mp hs
        intro o ho
        cases ho
    · exact h
  | configFrames slave output input =>
    unfold SimMaster.prepare configFrames
    dsimp only
    split
    · exact h
    · exact h
    · next s₀ d hs₀ hd =>
      split
      · next hlengths =>
        obtain ⟨rfl, rfl⟩ := hlengths
        have hroom : m.room = d.length := by
          unfold room
          rw [hd]
          rfl
        -- The frames of this slave are put at the end of the domain.
        intro s hs
        have hgrown : (d ++ List.replicate (CommandFrame.length + StateFrame.length) 0).length =
            d.length + CommandFrame.length + StateFrame.length := by
          rw [List.length_append, List.length_replicate, Nat.add_assoc]
        show s.Within (d ++ List.replicate (CommandFrame.length + StateFrame.length) 0).length
        rw [hgrown]
        obtain hs | rfl := List.mem_or_eq_of_mem_set hs
        · have hwithin : s.Within d.length := hroom ▸ h s hs
          exact hwithin.mono (by omega)
        · intro o ho
          cases ho
          exact ⟨Nat.le_add_right _ _, le_rfl⟩
      · exact h
  | configClock slave period shift =>
    unfold SimMaster.prepare configClock
    dsimp only
    split
    · exact h
    · next s₀ hs₀ =>
      split
      · intro s hs
        obtain hs | rfl := List.mem_or_eq_of_mem_set hs
        · exact h s hs
        · exact h s₀ (List.mem_of_getElem? hs₀)
      · exact h

theorem InRoom.prepared (h : m.InRoom)
    (hone : m.domains + calls.count .createDomain ≤ 1) : (m.prepared calls).InRoom := by
  induction calls generalizing m with
  | nil => exact h
  | cons call calls ih =>
    by_cases hcall : call = .createDomain
    · subst hcall
      rw [List.count_cons_self] at hone
      have hnone : m.domain = none := by
        have hdomains : m.domains = 0 := by omega
        exact Option.toList_eq_nil_iff.mp (List.eq_nil_of_length_eq_zero hdomains)
      have hnext : (m.prepare .createDomain).domains = 1 := rfl
      exact ih (h.prepare fun _ => hnone) (by omega)
    · rw [List.count_cons_of_ne hcall] at hone
      refine ih (h.prepare fun heq => absurd heq hcall) ?_
      rw [domains_prepare hcall]
      exact hone

/-! ## Activated -/

/-- An active master whose slaves have their frames within the domain and its copy. -/
structure Placed (n : Nat) (m : SimMaster α) : Prop where
  unbroken : m.broken = false
  active : m.active = true
  domain : ∃ d, m.domain = some d ∧ d.length = n
  copy : m.inFlight.length = n
  slaves : ∀ s ∈ m.slaves, s.Placed n

variable [Scalar α] [Transmit α]

/-- The rig when a slave has read its command in a frame. -/
def serveOne (m : SimMaster α) (frame : Bytes) (rig : SimRig α) (s : SimSlave) : SimRig α :=
  match s.command? frame with
  | some c => m.serve s.side c rig
  | none => rig

/-- The rig when some slaves, one after the other, have read their commands in a frame. -/
def serveEach (m : SimMaster α) (frame : Bytes) (slaves : List SimSlave) (rig : SimRig α) :
    SimRig α :=
  slaves.foldl (m.serveOne frame) rig

/-- Every slave has read its command in a frame, and counted one more update of its state. -/
structure Served (frame : Bytes) (m m' : SimMaster α) : Prop where
  commands : ∀ s ∈ m.slaves, ∃ c : CommandFrame α, s.command? frame = some c
  rig : m'.rig = m.serveEach frame m.slaves m.rig
  slaves : m'.slaves = m.slaves.map SimSlave.updated

variable {n : Nat} {s : SimSlave} {slaves : List SimSlave} {domain : Bytes}

/-- Reading a command sends nothing. -/
theorem numSends_serveEach (m : SimMaster α) (frame : Bytes) (slaves : List SimSlave)
    (rig : SimRig α) : (m.serveEach frame slaves rig).numSends = rig.numSends := by
  induction slaves generalizing rig with
  | nil => rfl
  | cons s slaves ih =>
    refine (ih (m.serveOne frame rig s)).trans ?_
    unfold serveOne
    split <;> rfl

/-- A slave whose frames have their places takes part in an exchange. -/
theorem exchangeOne_placed (hs : s.Placed n) (hcopy : m.inFlight.length = n) (rig : SimRig α)
    (hdomain : domain.length = n) :
    ∃ domain', m.exchangeOne s rig domain =
        some (s.updated, m.serveOne m.inFlight rig s, domain') ∧ domain'.length = n := by
  obtain ⟨o, ho⟩ := Option.isSome_iff_exists.mp hs.framed
  obtain ⟨c, hc⟩ := hs.exists_command (α := α) hcopy
  have hfits : o.input + StateFrame.length ≤ domain.length := hdomain ▸ (hs.within o ho).2
  have hserved : m.serveOne m.inFlight rig s = m.serve s.side c rig := by
    unfold serveOne
    rw [hc]
  let frame := ((m.serve s.side c rig).frame s.side s.updated.counter).toBytes
  have hlength : (Bytes.overwrite o.input frame domain).length = n := by
    rw [Bytes.length_overwrite (by rw [StateFrame.length_toBytes]; exact hfits), hdomain]
  refine ⟨Bytes.overwrite o.input frame domain, ?_, hlength⟩
  unfold SimSlave.command? at hc
  simp only [ho, Option.bind_eq_bind, Option.bind_some] at hc
  obtain ⟨bytes, hbytes, hread⟩ := Option.bind_eq_some_iff.mp hc
  rw [hserved]
  unfold exchangeOne
  simp only [ho, hbytes, hread, Option.bind_eq_bind, Option.bind_some]
  exact if_pos hfits

/-- So do several slaves, one after the other. -/
theorem exchangeAll_placed (hslaves : ∀ s ∈ slaves, s.Placed n) (hcopy : m.inFlight.length = n)
    (rig : SimRig α) (hdomain : domain.length = n) :
    ∃ domain', m.exchangeAll slaves rig domain =
        some (slaves.map SimSlave.updated, m.serveEach m.inFlight slaves rig, domain') ∧
      domain'.length = n := by
  induction slaves generalizing rig domain with
  | nil => exact ⟨domain, rfl, hdomain⟩
  | cons s slaves ih =>
    obtain ⟨hs, hslaves⟩ := List.forall_mem_cons.mp hslaves
    obtain ⟨domain₁, hone, hlength⟩ := exchangeOne_placed hs hcopy rig hdomain
    obtain ⟨domain', hall, hlength'⟩ := ih hslaves (m.serveOne m.inFlight rig s) hlength
    refine ⟨domain', ?_, hlength'⟩
    rw [exchangeAll, hone]
    simp only [Option.bind_eq_bind, Option.bind_some, hall]
    rfl

/-- In an exchange every slave reads the copy in flight. -/
theorem Placed.exchange (h : m.Placed n) :
    m.exchange.Placed n ∧ Served m.inFlight m m.exchange ∧
      m.exchange.sent = m.sent ∧ m.exchange.received = m.received ∧
      m.exchange.numFrames = m.numFrames ∧ m.exchange.rig.numSends = m.rig.numSends ∧
      m.exchange.inFlight = m.inFlight := by
  obtain ⟨d, hd, hdomain⟩ := h.domain
  obtain ⟨d', hall, hlength⟩ := exchangeAll_placed h.slaves h.copy m.rig hdomain
  have hexchange : m.exchange = { m with
      slaves := m.slaves.map SimSlave.updated
      rig := m.serveEach m.inFlight m.slaves m.rig
      domain := some d' } := by
    unfold SimMaster.exchange
    simp only [hd, hall]
  rw [hexchange]
  refine ⟨⟨h.unbroken, h.active, ⟨d', rfl, hlength⟩, h.copy, ?_⟩,
    ⟨fun s hs => (h.slaves s hs).exists_command h.copy, rfl, rfl⟩, rfl, rfl, rfl, ?_, rfl⟩
  · intro s hs
    obtain ⟨s₀, hs₀, rfl⟩ := List.mem_map.mp hs
    exact (h.slaves s₀ hs₀).updated
  · exact m.numSends_serveEach m.inFlight m.slaves m.rig

end SimMaster

end BoomWalker
