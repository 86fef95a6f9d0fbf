/-
What a run of the controller publishes.

Every packet that a run publishes can be written in 64 bits and nests a few levels, whatever the gait
and the rig do (`run_published`). So whether it can be read back is a matter of its numbers alone: if
its time and its currents have numerals then it comes back with everything in it, and if one of them
has none it is refused. Nothing keeps a gait from computing a current without a numeral.
-/
import BoomWalker.Proofs.Telemetry.Packets
import BoomWalker.Proofs.Telemetry.Reports
import BoomWalker.Supervisor.Run

namespace BoomWalker

open Json

/-! ## The start of a run -/

theorem of_mapError_eq_ok {ε δ β : Type} {x : Except ε β} {f : ε → δ} {b : β}
    (h : x.mapError f = .ok b) : x = .ok b := by
  cases x with
  | error e => cases h
  | ok b' =>
    cases h
    rfl

/-- A gait that was set up has a controller that was just made. -/
theorem GaitName.created_of_setUp {n : GaitName} {d : ParamDirectory} {file : String}
    {fault : Option FileFault} {control : GaitControl n.gait} {archive : Archive (Record Float)}
    (h : n.setUp d file fault = .ok (control, archive)) : control.Created := by
  obtain ⟨params, -, h⟩ := of_bind_eq_ok h
  obtain ⟨made, hmade, h⟩ := of_bind_eq_ok h
  obtain ⟨created, -, h⟩ := of_bind_eq_ok h
  cases h
  exact .new (of_mapError_eq_ok hmade)

variable {M : Type}

/-- A start that either fails before anything is published, or makes a loop around a new
supervisor. -/
inductive Begins {n : GaitName} : Except (Outcome M) (Started M n) → Prop
  | failed {outcome : Outcome M} (h : outcome.published = []) : Begins (.error outcome)
  | started {control : GaitControl n.gait} {timeout : Nat} {rate : Float}
      {connection : Connection M Float} {limits : CycleLimits} {archive : Archive (Record Float)}
      (hcontrol : control.Created) :
      Begins (.ok ⟨⟨.new control timeout rate, connection⟩, limits, archive⟩)

theorem begins_of (n : GaitName) (p : LoopParams) {control : GaitControl n.gait}
    (hcontrol : control.Created) (archive : Archive (Record Float))
    (connection : Connection M Float) : Begins (Started.of n p control archive connection) := by
  unfold Started.of
  split
  · exact .failed rfl
  · exact .started hcontrol

variable [Master M]

theorem begins_startConfigured (env : Environment) (n : GaitName) (p : RunParams)
    (connection : Connection M Float) : Begins (startConfigured env n p connection) := by
  unfold startConfigured
  split
  · exact .failed rfl
  rename_i control archive hsetUp
  split
  · exact .failed rfl
  split
  · exact .failed rfl
  · exact begins_of n p.loop (GaitName.created_of_setUp hsetUp) archive _

theorem RunRequest.begins (requestMaster : FieldbusParams Float → Except FieldbusError M)
    (env : Environment) (request : RunRequest) : Begins (request.start requestMaster env) := by
  unfold RunRequest.start
  split
  · exact .failed rfl
  split
  · exact .failed rfl
  split
  · exact .failed rfl
  split
  · exact .failed rfl
  · exact .failed rfl
  · exact begins_startConfigured env request.gait _ _

/-! ## Packets -/

namespace ControlLoop

variable {g : Gait Float} {f : GaitForm g} {limits : CycleLimits}
  {read : String → Option (OperatorPacket g.Input)} {max : Option Nat}

theorem run_published (hf : f.Counts) {control : GaitControl g} (hc : control.Created)
    (timeout : Nat) (rate : Float) (connection : Connection M Float) {ms : List (Moment Float)}
    {o : CycleOutput g} {store : Store Float (GaitStatus g)}
    (ho : o ∈ ((⟨.new control timeout rate, connection⟩ : ControlLoop M g).run limits read max
      ms).2.2) (hstore : o.published = some store) :
    store.numCycles < ms.length ∧
      ∀ status ∈ store.report, Fits ms.length 2 (f.reportToJson status.gait) := by
  let l : ControlLoop M g := ⟨.new control timeout rate, connection⟩
  obtain ⟨k, ho⟩ := List.mem_iff_getElem?.mp ho
  obtain ⟨m, state, hm, hi, hbus, hcycle⟩ := run_place l ms k ho
  have hplace : k < ms.length := (List.getElem?_eq_some_iff.mp hm).1
  -- As many cycles were completed before this one as it has moments before it.
  have hpast : ((l.inputs limits read max ms).take k).length = k :=
    List.length_take_of_le (List.getElem?_eq_some_iff.mp hi).1.le
  have hreports : (l.run limits read max (ms.take k)).1.supervisor.Reports f
      ((l.inputs limits read max ms).take k).length
      ((l.inputs limits read max ms).take k).length :=
    run_before max (P := fun past s => s.Reports f past.length past.length)
      (Supervisor.reports_new hf hc timeout rate)
      (fun past s i h => by
        rw [List.length_append]
        exact h.cycle limits read hf i) ms k
  rw [hpast] at hreports
  have hpublished : ((l.run limits read max (ms.take k)).1.supervisor.cycle limits read
      ⟨m.time, m.receipts, state, m.elapsed⟩).2.published = some store := by
    rw [cycle_supervisor hcycle hbus]
    exact hstore
  obtain ⟨hnum, hreport⟩ := hreports.published limits read hf hpublished
  exact ⟨hnum ▸ hplace, fun status hs => (hreport status hs).mono hplace le_rfl⟩

end ControlLoop

theorem Started.published_run {n : GaitName} (started : Started M n) (cycles : Option Nat)
    (moments : List (Moment Float)) :
    (started.run cycles moments).published =
      (started.loop.run started.limits n.packet? cycles moments).2.2.filterMap fun o =>
        o.published.map (TelemetryPacket.ofStore n.form.statusToJson) := by
  unfold Started.run
  simp only
  split <;> rfl

/-- A published packet is small: its count of cycles and the integers in its report are bounded by
the number of moments, and its report nests three levels at most. -/
theorem Started.published_small {n : GaitName} {started : Started M n}
    (h : Begins (.ok started)) {cycles : Option Nat} {moments : List (Moment Float)}
    {p : TelemetryPacket} (hp : p ∈ (started.run cycles moments).published) :
    p.numCycles < moments.length ∧ Fits moments.length 3 p.report := by
  rw [published_run] at hp
  obtain ⟨o, ho, hpacket⟩ := List.mem_filterMap.mp hp
  obtain ⟨store, hstore, rfl⟩ := Option.map_eq_some_iff.mp hpacket
  cases h with
  | started hcontrol =>
    obtain ⟨hcycles, hreport⟩ := ControlLoop.run_published n.counts hcontrol _ _ _ ho hstore
    refine ⟨hcycles, ?_⟩
    cases hstatus : store.report with
    | none =>
      rw [TelemetryPacket.ofStore, hstatus]
      exact .null
    | some status =>
      rw [TelemetryPacket.ofStore, hstatus]
      exact GaitForm.fits_status (hreport status hstatus)

theorem RunRequest.published_small (requestMaster : FieldbusParams Float → Except FieldbusError M)
    (env : Environment) {moments : List (Moment Float)} {request : RunRequest} {p : TelemetryPacket}
    (hp : p ∈ (request.run requestMaster env moments).published) :
    p.numCycles < moments.length ∧ Fits moments.length 3 p.report := by
  have hbegins := request.begins requestMaster env
  unfold RunRequest.run at hp
  cases hstart : request.start requestMaster env with
  | error outcome =>
    rw [hstart] at hp hbegins
    cases hbegins with
    | failed hnone =>
      rw [hnone] at hp
      cases hp
  | ok started =>
    rw [hstart] at hp hbegins
    exact Started.published_small hbegins hp

/-! ## A trial -/

def trialFiles : String → Except FileFault String
  | "ctrl_exec.toml" => .ok
    "cycle_period_s=1\nmax_consec_overruns=9\ngui_timeout_cycles=9\ntm_rate_hz=1"
  | "fieldbus.toml" => .ok
    "master_index=0\nvendor_id=1707\nproduct_codes=[1,2]\ncycle_period_ns=1000000\ndc_offset_ns=0
dc_assign_activate=768\nguard_delay_us=0\nref_clock_sync_cycles=1
[sim]\nnum_slaves=2\nlink_up_cycles=0\nplant_gain=0\nplant_time_constant_s=1"
  | "net.toml" => .ok "tm_endpoint=\"tcp://*:1\"\ngui_endpoint=\"tcp://a:1\""
  | "canon_walk.toml" => .ok
    "[framework]\ncycle_period_s=1\nstartup_ramp_s=0
[gait]\nmotor_rate_limit_rads=1\nhip_target_rad=1e300\ntau_limits=[0,1]"
  | _ => .error .notFound

/-- The product of this gain and the hip target of the file is no finite number. -/
def trialOrder : String :=
  "\x7b\"enabled\":true,\"params\":\x7b\"hip_pos_kp\":1e300\x7d\x7d"

/-- Three cycles of walking on a simulated fieldbus, which delivers its first state in the second of
them. The operator is heard in the third. -/
def trial : Outcome (SimMaster Float) :=
  RunRequest.run FieldbusParams.requestSim
    ⟨some trialFiles, none, none, none, fun _ => none, fun _ => none, 0⟩
    [⟨0, 0, [], 0⟩, ⟨1, 1, [], 0⟩, ⟨2, 2, [.text trialOrder], 0⟩] ⟨.canonWalk, true, none⟩

/-- The packets of the second and of the third cycle. -/
theorem trial_packets :
    (∃ p ∈ trial.published, p.numbers = [1, 0, 0, 0, 0, 0, 0] ∧ p.report.reals = [0, 0, 0]) ∧
      ∃ p ∈ trial.published, ¬ HasNumeral p.command.legs.left.hip := by
  have hpackets : (trial.published[1]?.map fun p => (p.numbers, p.report.reals)) =
        some ([1, 0, 0, 0, 0, 0, 0], [0, 0, 0]) ∧
      (trial.published[2]?.map fun p => decide (HasNumeral p.command.legs.left.hip)) =
        some false := by
    decide +kernel
  obtain ⟨hsecond, hthird⟩ := hpackets
  obtain ⟨p, hp, hnumbers⟩ := Option.map_eq_some_iff.mp hsecond
  obtain ⟨q, hq, hhip⟩ := Option.map_eq_some_iff.mp hthird
  exact ⟨⟨p, List.mem_of_getElem? hp, Prod.mk.inj hnumbers⟩, q, List.mem_of_getElem? hq,
    of_decide_eq_false hhip⟩

/-- What a run publishes, with any gait, can be read back as far as its numbers can be written. A
packet whose time and currents have numerals comes back as it was written, if its numbers come back
from their numerals. One whose time or one of whose currents has none is refused. -/
theorem RunRequest.published_readable
    (requestMaster : FieldbusParams Float → Except FieldbusError M) (env : Environment)
    (moments : List (Moment Float)) (request : RunRequest)
    (hmoments : moments.length ≤ Word.max64) (p : TelemetryPacket)
    (hp : p ∈ (request.run requestMaster env moments).published) :
    ((∀ x ∈ p.numbers, HasNumeral x) → (∀ x ∈ p.toJson.reals, HasNumeral x → ReadsBack x) →
      TelemetryPacket.ofText p.toText = .ok p.asWritten) ∧
    ((∃ x ∈ p.numbers, ¬ HasNumeral x) → ∃ e, TelemetryPacket.ofText p.toText = .error e) := by
  obtain ⟨hcycles, hreport⟩ := published_small requestMaster env hp
  refine ⟨fun hnumbers hback => ?_, TelemetryPacket.refused_toText⟩
  exact TelemetryPacket.ofText_toText (hcycles.le.trans hmoments)
    (hreport.mono hmoments (by decide)) hnumbers hback

theorem RunRequest.trial_readable :
    (∃ p ∈ trial.published, (∀ x ∈ p.numbers, HasNumeral x) ∧
      (∀ x ∈ p.toJson.reals, HasNumeral x → ReadsBack x) ∧
      TelemetryPacket.ofText p.toText = .ok p.asWritten) ∧
    ∃ p ∈ trial.published, (∃ x ∈ p.numbers, ¬ HasNumeral x) ∧
      ∃ e, TelemetryPacket.ofText p.toText = .error e := by
  obtain ⟨⟨p, hp, hnumbers, hreport⟩, q, hq, hhip⟩ := trial_packets
  have hzero : HasNumeral 0 ∧ ReadsBack 0 := ⟨rfl, rfl⟩
  have hone : HasNumeral 1 ∧ ReadsBack 1 := ⟨rfl, rfl⟩
  have hnumerals : ∀ x ∈ p.numbers, HasNumeral x := by
    rw [hnumbers]
    simp [hzero.1, hone.1]
  have hback : ∀ x ∈ p.toJson.reals, HasNumeral x → ReadsBack x := by
    rw [TelemetryPacket.reals_toJson, hnumbers, hreport]
    simp [hzero.2, hone.2]
  have hrefused : ∃ x ∈ q.numbers, ¬ HasNumeral x := ⟨_, by simp [TelemetryPacket.numbers,
    Command.currents, LegCurrents.toList], hhip⟩
  exact ⟨⟨p, hp, hnumerals, hback,
      (published_readable _ _ _ _ (by decide) p hp).1 hnumerals hback⟩,
    q, hq, hrefused, (published_readable _ _ _ _ (by decide) q hq).2 hrefused⟩

/-- A run may publish a packet that is not read back. -/
theorem RunRequest.not_always_readable :
    ∃ p ∈ trial.published, ∀ q, TelemetryPacket.ofText p.toText ≠ .ok q := by
  obtain ⟨-, p, hp, hhip⟩ := trial_packets
  have hrefused : ∃ x ∈ p.numbers, ¬ HasNumeral x := ⟨_, by simp [TelemetryPacket.numbers,
    Command.currents, LegCurrents.toList], hhip⟩
  obtain ⟨e, he⟩ := TelemetryPacket.refused_toText hrefused
  refine ⟨p, hp, fun q hq => ?_⟩
  rw [he] at hq
  cases hq

end BoomWalker
