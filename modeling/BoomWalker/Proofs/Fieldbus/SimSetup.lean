/-
How configuring leaves the simulated bus.

A simulated master answers every operation of the configuration in a known way if it succeeds. When
all of them have succeeded, the bus has a slave for each leg and a domain of zero bytes in which the
frames of the legs have the places of `Side.frameOffsets`, and nothing else has changed
(`configure_ok`).
-/
import BoomWalker.Proofs.Fieldbus.Layout
import BoomWalker.Proofs.Fieldbus.Phases

namespace BoomWalker

variable {α : Type}

/-! ## Sequences of operations -/

/-- A sequence of operations succeeds only if its parts do. -/
theorem Setup.bind_ok {M β γ : Type} {x : Setup M β} {f : β → Setup M γ} {m m' : M} {c : γ}
    (h : (x >>= f).run m = (.ok c, m')) :
    ∃ b m₁, x.run m = (.ok b, m₁) ∧ (f b).run m₁ = (.ok c, m') := by
  rw [ExceptT.run_bind] at h
  simp only [bind, StateT.bind] at h
  cases hx : x.run m with
  | mk answer m₁ =>
    rw [hx] at h
    cases answer with
    | error e => cases h
    | ok b => exact ⟨b, m₁, rfl, h⟩

theorem Setup.mapM_pair_ok {M β γ : Type} {f : β → Setup M γ} {x y : β} {m m' : M} {cs : List γ}
    (h : ([x, y].mapM f).run m = (.ok cs, m')) :
    ∃ b c m₁, (f x).run m = (.ok b, m₁) ∧ (f y).run m₁ = (.ok c, m') ∧ cs = [b, c] := by
  simp only [List.mapM_cons, List.mapM_nil] at h
  obtain ⟨b, m₁, hx, h⟩ := bind_ok h
  obtain ⟨bs, m₂, hrest, h⟩ := bind_ok h
  cases h
  obtain ⟨c, m₃, hy, hrest⟩ := bind_ok hrest
  cases hrest
  exact ⟨b, c, m₁, hx, hy, rfl⟩

/-! ## Operations of the simulated master -/

theorem FieldbusParams.productCodes_of_check {p : FieldbusParams α} (h : p.check = .ok ()) :
    ∃ a b, p.productCodes = [a, b] := by
  unfold check at h
  split at h
  · cases h
  · next hcodes => exact List.length_eq_two.mp (not_not.mp hcodes)

namespace SimMaster

variable [Scalar α] {m m' : SimMaster α}

theorem request_ok {index : Nat} {params : SimParams α} {period : α}
    (h : request index params period = .ok m) :
    m = ⟨params, period, none, [], false, false, [], false, 0, ⟨.zero, .both none, 0, 0, false⟩,
      false⟩ := by
  unfold request at h
  split at h
  · cases h
    rfl
  · cases h

variable [Transmit α]

theorem slaveConfig_ok {position vendor code id : Nat}
    (h : (Master.slaveConfig position vendor code).run m = (.ok id, m')) :
    id = m.slaves.length ∧ m' = { m with slaves := m.slaves ++
      [⟨position, if position = 0 then .left else .right, none, false, 0⟩] } := by
  change m.slaveConfig position = _ at h
  unfold slaveConfig at h
  split at h
  · cases h
    exact ⟨rfl, rfl⟩
  · cases h

theorem configFrames_ok {slave output input : Nat} {offsets : FrameOffsets}
    (h : (Master.configFrames slave output input).run m = (.ok offsets, m')) :
    ∃ s d, m.slaves[slave]? = some s ∧ m.domain = some d ∧
      offsets = ⟨d.length, d.length + output⟩ ∧ m' = { m with
        domain := some (d ++ List.replicate (output + input) 0)
        slaves := m.slaves.set slave { s with offsets := some offsets } } := by
  change m.configFrames slave output input = _ at h
  unfold configFrames at h
  split at h
  · cases h
  · cases h
  · next s d hs hd =>
    split at h
    · cases h
      exact ⟨s, d, hs, hd, rfl, rfl⟩
    · cases h

theorem configClock_ok {slave assign period shift : Nat}
    (h : (Master.configClock slave assign period shift).run m = (.ok (), m')) :
    ∃ s, m.slaves[slave]? = some s ∧
      m' = { m with slaves := m.slaves.set slave { s with clocked := true } } := by
  change m.configClock slave period shift = _ at h
  unfold configClock at h
  split at h
  · cases h
  · next s hs =>
    split at h
    · cases h
      exact ⟨s, hs, rfl⟩
    · cases h

/-! ## The parts of the configuration -/

/-- The slaves of both legs when their frames have their places, with the clocks turned on or not. -/
def slavePair (clocked : Bool) : List SimSlave :=
  [⟨0, .left, some (Side.frameOffsets .left), clocked, 0⟩,
    ⟨1, .right, some (Side.frameOffsets .right), clocked, 0⟩]

theorem slavePair_seated : List.Forall₂ (SimSlave.Seated 0) [.left, .right] (slavePair true) :=
  .cons ⟨rfl, rfl, rfl, rfl⟩ (.cons ⟨rfl, rfl, rfl, rfl⟩ .nil)

/-- The frames of both slaves stand one after the other in a domain of zero bytes. -/
theorem configureSlaves_ok {p : FieldbusParams α} (hcheck : p.check = .ok ()) {ids : List Nat}
    {offsets : List FrameOffsets} (hslaves : m.slaves = [])
    (h : (Connection.configureSlaves p).run m = (.ok (ids, offsets), m')) :
    ids = [0, 1] ∧ offsets = [Side.left, Side.right].map Side.frameOffsets ∧
      m' = { m with
        domain := some (List.replicate Side.domainLength 0), slaves := slavePair false } := by
  obtain ⟨a, b, hcodes⟩ := FieldbusParams.productCodes_of_check hcheck
  obtain ⟨params, period, domain, inFlight, sent, received, slaves, active, numFrames, rig,
    broken⟩ := m
  obtain rfl : slaves = [] := hslaves
  unfold Connection.configureSlaves at h
  rw [hcodes] at h
  obtain ⟨_, m₁, hdomain, h⟩ := Setup.bind_ok h
  cases hdomain
  -- Both slaves are configured, and numbered in order.
  obtain ⟨ids', m₂, hids, h⟩ := Setup.bind_ok h
  obtain ⟨id₀, id₁, m₃, hslave₀, hslave₁, rfl⟩ := Setup.mapM_pair_ok hids
  obtain ⟨rfl, rfl⟩ := slaveConfig_ok hslave₀
  obtain ⟨rfl, rfl⟩ := slaveConfig_ok hslave₁
  -- Each slave gets its frames at the end of the domain so far.
  obtain ⟨offsets', m₄, hoffsets, h⟩ := Setup.bind_ok h
  cases h
  obtain ⟨o₀, o₁, m₅, hframes₀, hframes₁, rfl⟩ := Setup.mapM_pair_ok hoffsets
  obtain ⟨s₀, d₀, hs₀, hd₀, rfl, rfl⟩ := configFrames_ok hframes₀
  cases hs₀
  cases hd₀
  obtain ⟨s₁, d₁, hs₁, hd₁, rfl, rfl⟩ := configFrames_ok hframes₁
  cases hs₁
  cases hd₁
  exact ⟨rfl, rfl, rfl⟩

/-- The clocks of both slaves are turned on. -/
theorem configureClocks_ok {p : FieldbusParams α} {shift : Nat}
    (hslaves : m.slaves = slavePair false)
    (h : (Connection.configureClocks p [0, 1] shift).run m = (.ok (), m')) :
    m' = { m with slaves := slavePair true } := by
  unfold Connection.configureClocks at h
  obtain ⟨_, m₁, hclock₀, h⟩ := Setup.bind_ok h
  obtain ⟨_, m₂, hclock₁, h⟩ := Setup.bind_ok h
  cases h
  obtain ⟨s₀, hs₀, rfl⟩ := configClock_ok hclock₀
  rw [hslaves] at hs₀
  cases hs₀
  obtain ⟨s₁, hs₁, rfl⟩ := configClock_ok hclock₁
  simp only [hslaves] at hs₁ ⊢
  cases hs₁
  rfl

/-- A connection that was configured on a master as it is requested: of the master only the domain and
the slaves have been set up. -/
theorem configure_ok {index : Nat} {sim : SimParams α} {period : α}
    (hrequest : request index sim period = .ok m) {p : FieldbusParams α} {now : Nat}
    {c : Connection (SimMaster α) α} (hconfigured : (Connection.configure p now m).1 = .ok c) :
    c = ⟨p, ⟨{ m with
          domain := some (List.replicate Side.domainLength 0), slaves := slavePair true },
        Connection.medullas ([Side.left, Side.right].map Side.frameOffsets), false, false⟩,
      0, .zero, false, 0⟩ := by
  obtain ⟨hcheck, ids, offsets, m₁, shift, m₂, hslaves, hclocks, rfl⟩ :=
    Connection.configure_ok hconfigured
  have hempty : m.slaves = [] := by rw [request_ok hrequest]
  obtain ⟨rfl, rfl, rfl⟩ := configureSlaves_ok hcheck hempty hslaves
  -- Telling a simulated master the time does nothing to it.
  obtain rfl := configureClocks_ok rfl hclocks
  rfl

end SimMaster

end BoomWalker
