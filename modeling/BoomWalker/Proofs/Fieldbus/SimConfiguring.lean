/-
What comes of making a connection to the simulated bus.

Main statement: parameters that cannot be used are refused, a bus with fewer than two slaves fails
at the first position that has none, and everything else succeeds, a start after it included. No
other error can come of it, and the time of the first pulse can always be computed: it lies within
one period, and falls on a boundary of the period (`Clock.shift?_lands`). An offset below 2 ^ 63
leaves room for the part of a second that is added to it.

Every operation that is asked of the simulated master has one result (`run_slaveConfig` to
`run_configClock`); the parts of the configuration are put together from these in the order in which
they are asked for.
-/
import BoomWalker.Proofs.Fieldbus.Configuring

namespace BoomWalker

variable {α : Type}

/-! ## The first pulse -/

/-- The first pulse comes within one period, and on a boundary of the period. -/
theorem Clock.shift?_lands {period offset now shift : Nat}
    (h : Clock.shift? period offset now = some shift) :
    0 < shift ∧ shift ≤ period ∧ period ∣ now % Clock.nanosPerSecond + offset + shift := by
  unfold Clock.shift? at h
  dsimp only at h
  generalize now % Clock.nanosPerSecond + offset = t at h ⊢
  split at h
  · next hfits =>
    cases h
    have hrem : t % period < period := Nat.mod_lt t hfits.2
    have hsum : t + (period - t % period) = period * (t / period) + period := by
      have hdiv := Nat.div_add_mod t period
      omega
    refine ⟨Nat.sub_pos_of_lt hrem, Nat.sub_le _ _, t / period + 1, ?_⟩
    rw [hsum, Nat.mul_succ]
  · cases h

/-! ## Parameters -/

/-- Parameters that can be used: a code for each leg, and neither a period nor a number of cycles
between synchronisations that is zero. -/
structure FieldbusParams.Usable (p : FieldbusParams α) : Prop where
  codes : p.productCodes.length = 2
  period : p.cyclePeriod ≠ 0
  refClock : p.refClockCycles ≠ 0

theorem FieldbusParams.check_eq_ok_iff (p : FieldbusParams α) : p.check = .ok () ↔ p.Usable := by
  constructor
  · intro h
    unfold check at h
    split at h
    · cases h
    · next hcodes =>
      split at h
      · cases h
      · next hperiod =>
        split at h
        · cases h
        · next hrefClock => exact ⟨not_not.mp hcodes, hperiod, hrefClock⟩
  · intro h
    unfold check
    rw [if_neg (not_not.mpr h.codes), if_neg h.period, if_neg h.refClock]

theorem FieldbusParams.not_usable_iff (p : FieldbusParams α) :
    ¬ p.Usable ↔ p.productCodes.length ≠ 2 ∨ p.cyclePeriod = 0 ∨ p.refClockCycles = 0 := by
  constructor
  · intro h
    by_contra hnone
    simp only [not_or, not_not] at hnone
    obtain ⟨hcodes, hperiod, hrefClock⟩ := hnone
    exact h ⟨hcodes, hperiod, hrefClock⟩
  · rintro (hcodes | hperiod | hrefClock) h
    · exact hcodes h.codes
    · exact h.period hperiod
    · exact h.refClock hrefClock

namespace SimMaster

variable [Scalar α] [Transmit α] {m : SimMaster α}

/-! ## Operations of the simulated master -/

theorem run_createDomain :
    (Master.createDomain : Setup (SimMaster α) Unit).run m =
      (.ok (), { m with domain := some [] }) :=
  rfl

theorem run_slaveConfig {position : Nat} (h : position < m.params.numSlaves) (vendor code : Nat) :
    (Master.slaveConfig position vendor code).run m =
      (.ok m.slaves.length, { m with slaves := m.slaves ++
        [⟨position, if position = 0 then .left else .right, none, false, 0⟩] }) :=
  if_pos h

theorem run_slaveConfig_absent {position : Nat} (h : ¬ position < m.params.numSlaves)
    (vendor code : Nat) :
    (Master.slaveConfig position vendor code).run m = (.error (.slaveConfigFailed position), m) :=
  if_neg h

/-- A shift of up to a whole period is taken. -/
theorem run_configClock {slave period shift : Nat} {s : SimSlave} (hs : m.slaves[slave]? = some s)
    (hperiod : 0 < period) (hshift : shift ≤ period) (assign : Nat) :
    (Master.configClock slave assign period shift).run m =
      (.ok (), { m with slaves := m.slaves.set slave { s with clocked := true } }) := by
  change m.configClock slave period shift = _
  unfold configClock
  rw [hs]
  exact if_pos ⟨hperiod, hshift⟩

/-! ## The parts of the configuration -/

section Parts

variable {p : FieldbusParams α} {a b : Nat} (hcodes : p.productCodes = [a, b])
  (hslaves : m.slaves = [])

include hcodes

/-- The first position without a slave is the number of slaves. -/
theorem run_configureSlaves_absent (hfew : m.params.numSlaves < 2) :
    ∃ m', (Connection.configureSlaves p).run m =
      (.error (.slaveConfigFailed m.params.numSlaves), m') := by
  unfold Connection.configureSlaves
  rw [hcodes]
  simp only [List.zipIdx, List.mapM_cons, Setup.run_bind, run_createDomain]
  obtain hnone | hone : m.params.numSlaves = 0 ∨ m.params.numSlaves = 1 := by omega
  · rw [run_slaveConfig_absent (by simp only [hnone]; omega), hnone]
    exact ⟨_, rfl⟩
  · rw [run_slaveConfig (by simp only [hone]; omega)]
    dsimp only
    rw [run_slaveConfig_absent (by simp only [hone]; omega), hone]
    exact ⟨_, rfl⟩

include hslaves

theorem run_configureSlaves (henough : 2 ≤ m.params.numSlaves) :
    (Connection.configureSlaves p).run m =
      (.ok ([0, 1], [Side.left, Side.right].map Side.frameOffsets), { m with
        domain := some (List.replicate Side.domainLength 0), slaves := slavePair false }) := by
  obtain ⟨params, period, domain, inFlight, sent, received, slaves, active, numFrames, rig,
    broken⟩ := m
  obtain rfl : slaves = [] := hslaves
  have henough : 2 ≤ params.numSlaves := henough
  unfold Connection.configureSlaves
  rw [hcodes]
  simp only [List.zipIdx, List.mapM_cons, List.mapM_nil, Setup.run_bind, run_createDomain]
  rw [run_slaveConfig (by show 0 < params.numSlaves; omega)]
  dsimp only
  rw [run_slaveConfig (by show 1 < params.numSlaves; omega)]
  -- Both slaves are there now, so that placing their frames is a matter of counting bytes.
  rfl

end Parts

theorem run_configureClocks {p : FieldbusParams α} {shift : Nat}
    (hslaves : m.slaves = slavePair false) (hperiod : 0 < p.cyclePeriod)
    (hshift : shift ≤ p.cyclePeriod) :
    (Connection.configureClocks p [0, 1] shift).run m =
      (.ok (), { m with slaves := slavePair true }) := by
  obtain ⟨params, period, domain, inFlight, sent, received, slaves, active, numFrames, rig,
    broken⟩ := m
  obtain rfl : slaves = slavePair false := hslaves
  unfold Connection.configureClocks
  simp only [List.forM, Setup.run_bind]
  rw [run_configClock rfl hperiod hshift]
  dsimp only
  rw [run_configClock rfl hperiod hshift]
  rfl

/-- All slaves have their frames and their clocks, so that the master can be activated. -/
theorem run_activate (hslaves : m.slaves = slavePair true) {d : Bytes} (hd : m.domain = some d) :
    (Master.activate : Setup (SimMaster α) Unit).run m =
      (.ok (), { m with
        inFlight := List.replicate d.length 0, active := true, numFrames := 0 }) := by
  change m.activate = _
  unfold activate
  rw [hd, hslaves]
  rfl

/-! ## Making a connection -/

section Configure

variable {p : FieldbusParams α}

theorem configure_unusable (hunusable : ¬ p.Usable) (now : Nat) :
    ∃ e, (Connection.configure p now m).1 = .error (.bus (.invalidParams e)) := by
  cases hcheck : p.check with
  | error e =>
    refine ⟨e, ?_⟩
    unfold Connection.configure
    rw [hcheck]
  | ok _ => exact absurd (p.check_eq_ok_iff.mp hcheck) hunusable

theorem configure_absent (husable : p.Usable) (hfew : m.params.numSlaves < 2) (now : Nat) :
    (Connection.configure p now m).1 = .error (.bus (.slaveConfigFailed m.params.numSlaves)) := by
  have hcheck := p.check_eq_ok_iff.mpr husable
  obtain ⟨a, b, hcodes⟩ := FieldbusParams.productCodes_of_check hcheck
  obtain ⟨m', hfailed⟩ := run_configureSlaves_absent hcodes hfew
  unfold Connection.configure
  rw [hcheck]
  dsimp only
  rw [hfailed]

theorem configure_present (husable : p.Usable) (hslaves : m.slaves = [])
    (henough : 2 ≤ m.params.numSlaves) {now shift : Nat}
    (hshift : Clock.shift? p.cyclePeriod p.clockOffset now = some shift) :
    ∃ c, (Connection.configure p now m).1 = .ok c ∧ c.start.1 = .ok () := by
  have hcheck := p.check_eq_ok_iff.mpr husable
  obtain ⟨a, b, hcodes⟩ := FieldbusParams.productCodes_of_check hcheck
  obtain ⟨-, hwithin, -⟩ := Clock.shift?_lands hshift
  unfold Connection.configure
  rw [hcheck]
  dsimp only
  rw [run_configureSlaves hcodes hslaves henough]
  dsimp only
  rw [hshift]
  dsimp only
  -- Telling a simulated master the time does nothing to it.
  rw [run_configureClocks rfl (Nat.pos_of_ne_zero husable.period) hwithin]
  refine ⟨_, rfl, ?_⟩
  unfold Connection.start
  rw [run_activate rfl rfl]

/-- What comes of it, if the time of the first pulse can be computed. -/
theorem configure_cases (hslaves : m.slaves = []) {now : Nat}
    (hclock : p.Usable → ∃ shift, Clock.shift? p.cyclePeriod p.clockOffset now = some shift) :
    let answer := (Connection.configure p now m).1
    (¬ p.Usable ∧ ∃ e, answer = .error (.bus (.invalidParams e))) ∨
      (p.Usable ∧ m.params.numSlaves < 2 ∧
        answer = .error (.bus (.slaveConfigFailed m.params.numSlaves))) ∨
      (p.Usable ∧ 2 ≤ m.params.numSlaves ∧ ∃ c, answer = .ok c ∧ c.start.1 = .ok ()) := by
  by_cases husable : p.Usable
  · obtain hfew | henough := Nat.lt_or_ge m.params.numSlaves 2
    · exact .inr (.inl ⟨husable, hfew, configure_absent husable hfew now⟩)
    · obtain ⟨shift, hshift⟩ := hclock husable
      exact .inr (.inr ⟨husable, henough, configure_present husable hslaves henough hshift⟩)
  · exact .inl ⟨husable, configure_unusable husable now⟩

end Configure

/-- Making a connection to the simulated bus and starting it, for every offset below 2 ^ 63 and at
any time. -/
theorem configure_outcome (sim : SimParams α) (period : α) (p : FieldbusParams α)
    (hoffset : p.clockOffset < 2 ^ 63) (now : Nat) :
    ∃ m, request 0 sim period = .ok m ∧
      let answer := (Connection.configure p now m).1
      ((∃ e, answer = .error (.bus (.invalidParams e))) ↔
        p.productCodes.length ≠ 2 ∨ p.cyclePeriod = 0 ∨ p.refClockCycles = 0) ∧
      (∀ n, answer = .error (.bus (.slaveConfigFailed n)) ↔
        p.Usable ∧ sim.numSlaves = n ∧ n < 2) ∧
      ((∃ c, answer = .ok c ∧ c.start.1 = .ok ()) ↔ p.Usable ∧ 2 ≤ sim.numSlaves) ∧
      (∀ e, answer = .error e →
        (∃ i, e = .bus (.invalidParams i)) ∨ ∃ n, e = .bus (.slaveConfigFailed n)) ∧
      (p.Usable → ∃ shift, Clock.shift? p.cyclePeriod p.clockOffset now = some shift ∧
        0 < shift ∧ shift ≤ p.cyclePeriod ∧
        p.cyclePeriod ∣ now % Clock.nanosPerSecond + p.clockOffset + shift) := by
  have hclock : p.Usable → ∃ shift, Clock.shift? p.cyclePeriod p.clockOffset now = some shift :=
    fun husable =>
      FieldbusParams.shift?_of_room (p.check_eq_ok_iff.mpr husable) (by omega) now
  have hlands : p.Usable → ∃ shift, Clock.shift? p.cyclePeriod p.clockOffset now = some shift ∧
      0 < shift ∧ shift ≤ p.cyclePeriod ∧
      p.cyclePeriod ∣ now % Clock.nanosPerSecond + p.clockOffset + shift := by
    intro husable
    obtain ⟨shift, hshift⟩ := hclock husable
    exact ⟨shift, hshift, Clock.shift?_lands hshift⟩
  obtain ⟨m, hrequest⟩ : ∃ m, request 0 sim period = .ok m := ⟨_, rfl⟩
  have hslaves : m.slaves = [] := by rw [request_ok hrequest]
  have hparams : m.params = sim := by rw [request_ok hrequest]
  refine ⟨m, hrequest, ?_⟩
  intro answer
  rw [← p.not_usable_iff, ← hparams]
  obtain ⟨hunusable, e, hanswer⟩ | ⟨husable, hfew, hanswer⟩ |
      ⟨husable, henough, c, hanswer, hstart⟩ := configure_cases hslaves hclock
  · refine ⟨iff_of_true ⟨e, hanswer⟩ hunusable, fun n => ?_, ?_, ?_, hlands⟩
    · simp [answer, hanswer, hunusable]
    · simp [answer, hanswer, hunusable]
    · simp [answer, hanswer]
  · refine ⟨?_, fun n => ?_, ?_, ?_, hlands⟩
    · simp [answer, hanswer, husable]
    · simp only [answer, hanswer, Except.error.injEq, ConfigureError.bus.injEq,
        FieldbusError.slaveConfigFailed.injEq]
      exact ⟨fun h => ⟨husable, h, h ▸ hfew⟩, fun h => h.2.1⟩
    · simp [answer, hanswer, hfew.not_ge]
    · simp [answer, hanswer]
  · refine ⟨?_, fun n => ?_, iff_of_true ⟨c, hanswer, hstart⟩ ⟨husable, henough⟩, ?_, hlands⟩
    · simp [answer, hanswer, husable]
    · simp [answer, hanswer]
      omega
    · simp [answer, hanswer]

/-- A bus on which everything is there, with the largest offset and at a time when the first pulse
is a whole period away. -/
theorem standard_configure_outcome :
    let p : FieldbusParams Float := { FieldbusParams.standard with clockOffset := 2 ^ 63 - 1 }
    p.clockOffset < 2 ^ 63 ∧ Clock.shift? p.cyclePeriod p.clockOffset 224193 = some p.cyclePeriod ∧
      ∃ m, request 0 p.sim 0.001 = .ok m ∧
        ∃ c, (Connection.configure p 224193 m).1 = .ok c ∧ c.start.1 = .ok () := by
  intro p
  have hoffset : p.clockOffset < 2 ^ 63 := by decide
  obtain ⟨m, hrequest, -, -, hconnected, -⟩ := configure_outcome p.sim 0.001 p hoffset 224193
  have husable : p.Usable := ⟨rfl, by decide, by decide⟩
  have henough : 2 ≤ p.sim.numSlaves := by decide
  exact ⟨hoffset, by decide, m, hrequest, hconnected.mpr ⟨husable, henough⟩⟩

end SimMaster

end BoomWalker
