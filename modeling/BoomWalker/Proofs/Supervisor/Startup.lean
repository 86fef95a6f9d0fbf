/-
How a start of the controller on the simulated fieldbus can end.

Main statement (`RunRequest.start_ends`): whatever stands in the files and whatever goes wrong
outside, a start ends with an error or reaches the first cycle, unless everything was prepared and
the length of a cycle is no length of time: it is negative, undefined or too long, as nothing checks
it. No other computation is without a result. The first pulse of the slaves' clocks can be computed
because an offset from a file fits a signed word (`FieldbusParams.clockOffset_lt`).
-/
import BoomWalker.Proofs.Fieldbus.SimConfiguring
import BoomWalker.Proofs.Telemetry.Runs
import BoomWalker.Proofs.Toml.Integers

namespace BoomWalker

open Json

/-! ## Offsets in files -/

theorem readParams_ok {β : Type} {form : Json → Option β} {text : String} {p : β}
    (h : readParams form text = .ok p) : ∃ v, Toml.parse text = some v ∧ form v = some p := by
  unfold readParams at h
  split at h
  · next hread =>
    cases h
    exact Option.bind_eq_some_iff.mp hread
  · cases h

theorem ParamDirectory.load_ok {β : Type} {d : ParamDirectory} {name : String}
    {form : Json → Option β} {p : β} (h : d.load name form = .ok p) :
    ∃ text, readParams form text = .ok p := by
  unfold load at h
  split at h
  · cases h
  · split at h
    · cases h
    · exact ⟨_, h⟩

theorem FieldbusParams.clockOffset_ofJson? {fields : List (String × Json)}
    (hfields : ∀ f ∈ fields, f.2.InWord) {p : FieldbusParams Float}
    (h : ofJson? (.obj fields) = some p) : p.clockOffset < 2 ^ 63 := by
  obtain ⟨vs, hvs, h⟩ := Option.bind_eq_some_iff.mp h
  have hfit := Json.fields?_inWord hfields hvs
  split at h
  · next index vendor codes period offset assign guardDelay refClock sim =>
    obtain ⟨_, -, h⟩ := Option.bind_eq_some_iff.mp h
    obtain ⟨_, -, h⟩ := Option.bind_eq_some_iff.mp h
    obtain ⟨_, -, h⟩ := Option.bind_eq_some_iff.mp h
    obtain ⟨_, -, h⟩ := Option.bind_eq_some_iff.mp h
    obtain ⟨_, -, h⟩ := Option.bind_eq_some_iff.mp h
    obtain ⟨n, hn, h⟩ := Option.bind_eq_some_iff.mp h
    obtain ⟨_, -, h⟩ := Option.bind_eq_some_iff.mp h
    obtain ⟨_, -, h⟩ := Option.bind_eq_some_iff.mp h
    obtain ⟨_, -, h⟩ := Option.bind_eq_some_iff.mp h
    obtain ⟨_, -, h⟩ := Option.bind_eq_some_iff.mp h
    cases h
    exact (hfit offset (by simp)).asNatural?_lt hn
  · cases h

/-- An offset from a file fits a signed word. -/
theorem FieldbusParams.clockOffset_lt {d : ParamDirectory} {name : String}
    {p : FieldbusParams Float} (h : d.load name ofJson? = .ok p) : p.clockOffset < 2 ^ 63 := by
  obtain ⟨text, hread⟩ := ParamDirectory.load_ok h
  obtain ⟨v, hparse, hform⟩ := readParams_ok hread
  obtain ⟨fields, rfl, hfields⟩ := Toml.parse_inWord hparse
  exact clockOffset_ofJson? hfields hform

theorem RunParams.clockOffset_load {env : Environment} {p : RunParams}
    (h : load env = .ok p) : p.bus.clockOffset < 2 ^ 63 := by
  obtain ⟨_, -, h⟩ := of_bind_eq_ok h
  obtain ⟨_, -, h⟩ := of_bind_eq_ok h
  obtain ⟨loop, -, h⟩ := of_bind_eq_ok h
  obtain ⟨bus, hbus, h⟩ := of_bind_eq_ok h
  obtain ⟨net, -, h⟩ := of_bind_eq_ok h
  cases h
  exact FieldbusParams.clockOffset_lt (of_mapError_eq_ok hbus)

/-! ## The length of a cycle -/

/-- The length of a cycle is a length of time: it is not negative, and its seconds fit a word of 64
bits. -/
def LoopParams.Timed (p : LoopParams) : Prop := 0 ≤ p.period ∧ p.period < 18446744073709551616

/-- A loop is made ready exactly on a length of time, and everything else crashes the start. -/
theorem Started.of_cases {M : Type} [Master M] (n : GaitName) (p : LoopParams)
    (control : GaitControl n.gait) (archive : Archive (Record Float))
    (connection : Connection M Float) :
    (p.Timed ∧ ∃ s, Started.of n p control archive connection = .ok s) ∨
      (¬ p.Timed ∧ ∃ o, Started.of n p control archive connection = .error o ∧
        o.ending = .crashed) := by
  unfold Started.of Clock.nanos? LoopParams.Timed
  by_cases htimed : 0 ≤ p.period ∧ p.period < 18446744073709551616
  · rw [if_pos htimed]
    exact .inl ⟨htimed, _, rfl⟩
  · rw [if_neg htimed]
    exact .inr ⟨htimed, _, rfl, rfl⟩

/-! ## Starting -/

/-- Everything that a run needs before its first cycle is there. -/
structure RunRequest.Prepared (env : Environment) (request : RunRequest) (p : RunParams) :
    Prop where
  loaded : RunParams.load env = .ok p
  simulated : request.sim = true
  index : p.bus.masterIndex = 0
  usable : p.bus.Usable
  slaves : 2 ≤ p.bus.sim.numSlaves
  gait : ∃ made,
    request.gait.setUp env.params request.gait.paramFile env.archiveFault = .ok made
  network : p.net.fault? env = none

/-- On a connection that can be started only the gait and the network can be missing. -/
theorem startConfigured_cases {M : Type} [Master M] (env : Environment) (n : GaitName)
    (p : RunParams) {connection : Connection M Float} (hstart : connection.start.1 = .ok ()) :
    (¬ ((∃ made, n.setUp env.params n.paramFile env.archiveFault = .ok made) ∧
        p.net.fault? env = none) ∧
      ∃ o e, startConfigured env n p connection = .error o ∧ o.ending = .failed e) ∨
    ((∃ made, n.setUp env.params n.paramFile env.archiveFault = .ok made) ∧
      p.net.fault? env = none ∧ ∃ control archive started,
        startConfigured env n p connection = Started.of n p.loop control archive started) := by
  unfold startConfigured
  cases hgait : n.setUp env.params n.paramFile env.archiveFault with
  | error e =>
    refine .inl ⟨fun ⟨⟨made, hmade⟩, _⟩ => ?_, _, _, rfl, rfl⟩
    cases hmade
  | ok made =>
    obtain ⟨control, archive⟩ := made
    cases hnet : p.net.fault? env with
    | some e =>
      refine .inl ⟨fun ⟨_, hnone⟩ => ?_, _, _, rfl, rfl⟩
      cases hnone
    | none =>
      cases hanswer : connection.start with
      | mk answer started =>
        rw [hanswer] at hstart
        obtain rfl : answer = .ok () := hstart
        exact .inr ⟨⟨_, rfl⟩, rfl, control, archive, started, rfl⟩

/-- Either something is missing and the start fails, or everything is prepared and a loop is made
ready on a connection that was started. -/
theorem RunRequest.start_cases (env : Environment) (request : RunRequest) :
    ((∀ p, ¬ request.Prepared env p) ∧
      ∃ o e, request.start FieldbusParams.requestSim env = .error o ∧ o.ending = .failed e) ∨
    ∃ p, request.Prepared env p ∧ ∃ control archive started,
      request.start FieldbusParams.requestSim env =
        Started.of request.gait p.loop control archive started := by
  unfold start
  cases hload : RunParams.load env with
  | error e =>
    refine .inl ⟨fun p hp => ?_, _, _, rfl, rfl⟩
    cases hload.symm.trans hp.loaded
  | ok p =>
    -- No other parameters can be loaded, so that nothing else can be prepared either.
    have hnone (hp : ¬ request.Prepared env p) : ∀ p', ¬ request.Prepared env p' := by
      intro p' hp'
      cases hload.symm.trans hp'.loaded
      exact hp hp'
    dsimp only
    by_cases hsim : request.sim = true
    · rw [if_neg (not_not.mpr hsim)]
      by_cases hindex : p.bus.masterIndex = 0
      · obtain ⟨m, hrequest⟩ : ∃ m, p.bus.requestSim = .ok m := ⟨_, if_pos hindex⟩
        have hslaves : m.slaves = [] := by rw [SimMaster.request_ok hrequest]
        have hparams : m.params = p.bus.sim := by rw [SimMaster.request_ok hrequest]
        have hoffset := RunParams.clockOffset_load hload
        have hclock (husable : p.bus.Usable) : ∃ shift,
            Clock.shift? p.bus.cyclePeriod p.bus.clockOffset env.now = some shift :=
          FieldbusParams.shift?_of_room (p.bus.check_eq_ok_iff.mpr husable) (by omega) env.now
        have hcases := SimMaster.configure_cases hslaves hclock
        rw [hparams] at hcases
        rw [hrequest]
        dsimp only at hcases ⊢
        cases hconfigured : Connection.configure p.bus env.now m with
        | mk answer m' =>
          rw [hconfigured] at hcases
          obtain ⟨hunusable, e, rfl⟩ | ⟨-, hfew, rfl⟩ |
              ⟨husable, henough, connection, rfl, hstart⟩ := hcases
          · exact .inl ⟨hnone fun hp => hunusable hp.usable, _, _, rfl, rfl⟩
          · exact .inl ⟨hnone fun hp => hfew.not_ge hp.slaves, _, _, rfl, rfl⟩
          · obtain ⟨hmissing, hfailed⟩ | ⟨hgait, hnet, hready⟩ :=
              startConfigured_cases env request.gait p hstart
            · exact .inl ⟨hnone fun hp => hmissing ⟨hp.gait, hp.network⟩, hfailed⟩
            · exact .inr ⟨p, ⟨hload, hsim, hindex, husable, henough, hgait, hnet⟩, hready⟩
      · have hrequest : p.bus.requestSim = .error (.masterUnavailable p.bus.masterIndex) :=
          if_neg hindex
        rw [hrequest]
        exact .inl ⟨hnone fun hp => hindex hp.index, _, _, rfl, rfl⟩
    · rw [if_pos hsim]
      exact .inl ⟨hnone fun hp => hsim hp.simulated, _, _, rfl, rfl⟩

theorem RunRequest.Prepared.unique {env : Environment} {request : RunRequest} {p p' : RunParams}
    (h : request.Prepared env p) (h' : request.Prepared env p') : p = p' := by
  cases h.loaded.symm.trans h'.loaded
  rfl

/-- A start fails or crashes, or reaches the first cycle. It crashes exactly when everything is
prepared and the length of a cycle is no length of time. -/
theorem RunRequest.start_ends (env : Environment) (request : RunRequest) :
    (∀ o, request.start FieldbusParams.requestSim env = .error o →
      o.ending = .crashed ∨ ∃ e, o.ending = .failed e) ∧
    ((∃ o, request.start FieldbusParams.requestSim env = .error o ∧ o.ending = .crashed) ↔
      ∃ p, request.Prepared env p ∧ ¬ p.loop.Timed) ∧
    ((∃ s, request.start FieldbusParams.requestSim env = .ok s) ↔
      ∃ p, request.Prepared env p ∧ p.loop.Timed) := by
  obtain ⟨hmissing, o, e, hstart, hfailed⟩ | ⟨p, hp, control, archive, started, hstart⟩ :=
    request.start_cases env
  · rw [hstart]
    refine ⟨?_, iff_of_false ?_ ?_, iff_of_false ?_ ?_⟩
    · rintro o' ho'
      cases ho'
      exact .inr ⟨e, hfailed⟩
    · rintro ⟨o', ho', hcrashed⟩
      cases ho'
      cases hfailed.symm.trans hcrashed
    · exact fun ⟨p, hp, _⟩ => hmissing p hp
    · rintro ⟨s, hs⟩
      cases hs
    · exact fun ⟨p, hp, _⟩ => hmissing p hp
  · rw [hstart]
    obtain ⟨htimed, s, hs⟩ | ⟨hnot, o, ho, hcrashed⟩ :=
      Started.of_cases request.gait p.loop control archive started
    · rw [hs]
      refine ⟨fun o ho => ?_, iff_of_false ?_ ?_, iff_of_true ⟨s, rfl⟩ ⟨p, hp, htimed⟩⟩
      · cases ho
      · rintro ⟨o, ho, -⟩
        cases ho
      · rintro ⟨p', hp', hnot⟩
        exact hnot (hp.unique hp' ▸ htimed)
    · rw [ho]
      refine ⟨fun o' ho' => ?_, iff_of_true ⟨o, rfl, hcrashed⟩ ⟨p, hp, hnot⟩,
        iff_of_false ?_ ?_⟩
      · cases ho'
        exact .inl hcrashed
      · rintro ⟨s, hs⟩
        cases hs
      · rintro ⟨p', hp', htimed⟩
        exact hnot (hp.unique hp' ▸ htimed)

/-- Files for constant currents, whose cycle has a negative length. -/
def backwardFiles : String → Except FileFault String
  | "ctrl_exec.toml" => .ok
    "cycle_period_s=-1\nmax_consec_overruns=9\ngui_timeout_cycles=9\ntm_rate_hz=1"
  | "fieldbus.toml" => .ok
    "master_index=0\nvendor_id=0\nproduct_codes=[1,2]\ncycle_period_ns=1\ndc_offset_ns=0
dc_assign_activate=0\nguard_delay_us=0\nref_clock_sync_cycles=1\nsim=[2,0,0,1]"
  | "net.toml" => .ok "tm_endpoint=\"tcp://*:1\"\ngui_endpoint=\"tcp://a:1\""
  | "const_force.toml" => .ok "framework=[1,0]\ngait=[1]"
  | _ => .error .notFound

/-- Nothing goes wrong outside. -/
def backward : Environment :=
  ⟨some backwardFiles, none, none, none, fun _ => none, fun _ => none, 0⟩

theorem backward_crashes :
    (match RunRequest.start FieldbusParams.requestSim backward ⟨.constForce, true, none⟩ with
      | .error ⟨.crashed, _, _, _⟩ => true
      | _ => false) = true := by
  decide +kernel

/-- With these files nothing is refused, and the start crashes. -/
theorem not_always_fails_or_cycles :
    ¬ ∀ (env : Environment) (request : RunRequest),
      (∃ s, request.start FieldbusParams.requestSim env = .ok s) ∨
        ∃ o e, request.start FieldbusParams.requestSim env = .error o ∧ o.ending = .failed e := by
  intro hall
  have hcrashes := backward_crashes
  obtain ⟨s, hs⟩ | ⟨o, e, ho, he⟩ := hall backward ⟨.constForce, true, none⟩
  · rw [hs] at hcrashes
    cases hcrashes
  · rw [ho] at hcrashes
    obtain ⟨ending, master, archive, published⟩ := o
    obtain rfl : ending = .failed e := he
    cases hcrashes

end BoomWalker
