/-
Which runs of the controller release the master that they requested.

A run on a recorded master goes as one on the master itself (`RunRequest.run_recorded`), so that
its record shows what every run asks of its master. A loop whose connection was started goes on
until its limit and holds its master (`ControlLoop.run_keeps`), and the rig is left at rest with one
release (`ControlLoop.shutDown_releases`).

Main statement (`RunRequest.run_releases`): a run that finishes releases its master once, and so
does one whose configuration fails. One that fails later on, when the gait, the network or the start
of the fieldbus fails, leaves the master unreleased.
-/
import BoomWalker.Proofs.Fieldbus.Releasing
import BoomWalker.Proofs.Supervisor.Startup

namespace BoomWalker

variable {M α : Type} [Master M]

/-- A master that is held until it is released at the end is released once. -/
theorem count_release_append {record : List MasterEntry} (h : ¬ Released record) :
    ((record ++ [(MasterCall.release, MasterAnswer.done)]).map Prod.fst).count .release = 1 := by
  rw [List.map_append, List.count_append, List.count_eq_zero.mpr h]
  rfl

/-! ## The loop on a recorded master -/

/-- A connection that runs goes on running. -/
theorem Connection.cycle_runs [Transmit α] {c : Connection M α} (h : c.running = true) (now : Nat)
    (between : List (Command α)) :
    ∃ s c', c.cycle now between = (.ok s, c') ∧ c'.running = true := by
  obtain ⟨-, -, hreceived, -⟩ := (c.underway now between).receivePhase_received
  refine ⟨_, _, cycle_of_running h now between, ?_⟩
  rw [hreceived, (c.underway_keep now between).1, h]

namespace ControlLoop

variable [Scalar α] [Transmit α] {g : Gait α} {limits : CycleLimits}
  {read : String → Option (OperatorPacket g.Input)} {max : Option Nat}

/-- The loop on the master itself. -/
def unrecorded (l : ControlLoop (Recorded M) g) : ControlLoop M g :=
  ⟨l.supervisor, l.connection.unrecorded⟩

theorem cycle_recorded (l : ControlLoop (Recorded M) g) (m : Moment α) :
    l.unrecorded.cycle limits read m =
      ((l.cycle limits read m).1.unrecorded, (l.cycle limits read m).2) := by
  unfold cycle work
  have hbus : l.unrecorded.connection.cycle m.busTime [] =
      ((l.connection.cycle m.busTime []).1, (l.connection.cycle m.busTime []).2.unrecorded) :=
    l.connection.cycle_recorded m.busTime []
  rw [hbus]
  cases l.connection.cycle m.busTime [] with
  | mk answer connection =>
    cases answer with
    | error e => rfl
    | ok state =>
      dsimp only [settle]
      rw [Connection.submits_recorded, Connection.submits_recorded]
      rfl

theorem run_recorded (l : ControlLoop (Recorded M) g) (ms : List (Moment α)) :
    l.unrecorded.run limits read max ms =
      ((l.run limits read max ms).1.unrecorded, (l.run limits read max ms).2) := by
  induction ms generalizing l with
  | nil => rfl
  | cons m ms ih =>
    have hlimit : l.unrecorded.atLimit max = l.atLimit max := rfl
    unfold run
    rw [hlimit]
    split
    · rfl
    · rw [cycle_recorded]
      cases l.cycle limits read m with
      | mk l' answer =>
        cases answer with
        | error e => rfl
        | ok o =>
          dsimp only
          rw [ih l']

theorem shutDown_recorded (l : ControlLoop (Recorded M) g) :
    l.unrecorded.shutDown = l.shutDown.unrecorded :=
  ((l.connection.submit (.zero .idle)).stop).cleanup_recorded

/-! ### What the loop asks of its master -/

/-- A cycle of a loop that runs. -/
theorem cycle_keeps {l : ControlLoop (Recorded M) g} (h : l.connection.running = true)
    (m : Moment α) :
    ∃ l' o, l.cycle limits read m = (l', .ok o) ∧ l'.connection.running = true ∧
      l.connection.Keeps l'.connection := by
  obtain ⟨state, connection, hbus, hruns⟩ := Connection.cycle_runs h m.busTime []
  have hkeeps : l.connection.Keeps connection := by
    have hcycle := l.connection.cycle_keeps m.busTime []
    rwa [hbus] at hcycle
  cases hcycle : l.cycle limits read m with
  | mk l' answer =>
    cases answer with
    | error e =>
      obtain ⟨-, hfailed⟩ := cycle_error hcycle
      rw [hbus] at hfailed
      cases hfailed
    | ok o =>
      obtain ⟨state', connection', hbus', -, hsubmitted⟩ := cycle_ok hcycle
      cases hbus.symm.trans hbus'
      refine ⟨l', o, rfl, ?_, ?_⟩
      · rw [hsubmitted, (Connection.submits_keep connection o.submitted).1]
        exact hruns
      · rw [hsubmitted]
        exact hkeeps.trans (Connection.submits_keeps connection o.submitted)

/-- A loop that runs holds its master, and its fieldbus does not fail. -/
theorem run_keeps {l : ControlLoop (Recorded M) g} (h : l.connection.running = true)
    (ms : List (Moment α)) :
    l.connection.Keeps (l.run limits read max ms).1.connection ∧
      ∀ e, (l.run limits read max ms).2.1 ≠ .busFailed e := by
  induction ms generalizing l with
  | nil =>
    refine ⟨.refl _, fun e => ?_⟩
    unfold run
    split <;> exact LoopEnd.noConfusion
  | cons m ms ih =>
    unfold run
    split
    · exact ⟨.refl _, fun e => LoopEnd.noConfusion⟩
    · obtain ⟨l', o, hcycle, hruns, hkeeps⟩ := cycle_keeps h m
      obtain ⟨hrest, hends⟩ := ih hruns
      rw [hcycle]
      exact ⟨hkeeps.trans hrest, hends⟩

/-- A loop that holds its master releases it when the rig is left at rest. -/
theorem shutDown_releases {l : ControlLoop (Recorded M) g}
    (hheld : l.connection.link.released = false)
    (hrecord : ¬ Released l.connection.link.master.record) :
    (l.shutDown.master.record.map Prod.fst).count .release = 1 := by
  have hkeeps := l.connection.submits_keeps [.zero .idle]
  have hopen : (l.connection.submit (.zero .idle)).stop.link.released = false :=
    hkeeps.released.trans hheld
  have hnot : ¬ Released (l.connection.submit (.zero .idle)).stop.link.master.record :=
    hkeeps.holds.not_released hrecord
  unfold shutDown Connection.cleanup
  rw [hopen]
  exact count_release_append hnot

end ControlLoop

/-! ## The start on a recorded master -/

/-- How a recorded master is requested. -/
def Recorded.requesting {β : Type} (requestMaster : β → Except FieldbusError M) (p : β) :
    Except FieldbusError (Recorded M) :=
  (requestMaster p).map unasked

/-- What a run leaves behind, without the record. -/
def Outcome.unrecorded (o : Outcome (Recorded M)) : Outcome M :=
  ⟨o.ending, o.master.map Recorded.master, o.archive, o.published⟩

/-- A controller that is ready to cycle, on the master itself. -/
def Started.unrecorded {n : GaitName} (s : Started (Recorded M) n) : Started M n :=
  ⟨s.loop.unrecorded, s.limits, s.archive⟩

/-- A start on the master itself. -/
def unrecordedStart {n : GaitName} :
    Except (Outcome (Recorded M)) (Started (Recorded M) n) → Except (Outcome M) (Started M n)
  | .error o => .error o.unrecorded
  | .ok s => .ok s.unrecorded

theorem startConfigured_recorded (env : Environment) (n : GaitName) (p : RunParams)
    (c : Connection (Recorded M) Float) :
    startConfigured env n p c.unrecorded = unrecordedStart (startConfigured env n p c) := by
  unfold startConfigured
  cases n.setUp env.params n.paramFile env.archiveFault with
  | error e => rfl
  | ok made =>
    dsimp only
    cases p.net.fault? env with
    | some e => rfl
    | none =>
      dsimp only
      rw [Connection.start_recorded]
      cases c.start with
      | mk answer started =>
        cases answer with
        | error e => rfl
        | ok _ =>
          dsimp only [Started.of]
          cases Clock.nanos? p.loop.period with
          | none => rfl
          | some period => rfl

theorem RunRequest.start_recorded (requestMaster : FieldbusParams Float → Except FieldbusError M)
    (env : Environment) (request : RunRequest) :
    request.start requestMaster env =
      unrecordedStart (request.start (Recorded.requesting requestMaster) env) := by
  unfold start
  cases RunParams.load env with
  | error e => rfl
  | ok p =>
    dsimp only [Recorded.requesting]
    split
    · rfl
    · cases requestMaster p.bus with
      | error e => rfl
      | ok m =>
        have hconfigure := Connection.configure_recorded p.bus env.now (Recorded.unasked m)
        change Connection.configure p.bus env.now m = _ at hconfigure
        dsimp only [Except.map]
        rw [hconfigure]
        cases Connection.configure p.bus env.now (Recorded.unasked m) with
        | mk answer r =>
          cases answer with
          | error e =>
            cases e with
            | bus e => rfl
            | clockOverflow => rfl
          | ok c => exact startConfigured_recorded env request.gait p c

/-- Recording changes nothing of what a run leaves behind. -/
theorem RunRequest.run_recorded (requestMaster : FieldbusParams Float → Except FieldbusError M)
    (env : Environment) (moments : List (Moment Float)) (request : RunRequest) :
    request.run requestMaster env moments =
      (request.run (Recorded.requesting requestMaster) env moments).unrecorded := by
  unfold run
  rw [start_recorded]
  cases request.start (Recorded.requesting requestMaster) env with
  | error o => rfl
  | ok s =>
    dsimp only [unrecordedStart, Started.run, Started.unrecorded]
    rw [ControlLoop.run_recorded]
    cases s.loop.run s.limits request.gait.packet? request.cycles moments with
    | mk loop rest =>
      obtain ⟨ending, outputs⟩ := rest
      cases ending with
      | limit =>
        dsimp only
        rw [ControlLoop.shutDown_recorded]
        rfl
      | busFailed e => rfl
      | interrupted => rfl

/-! ## Releases -/

/-- Is the master released by the end of a run that ends so? -/
def Ending.releases : Ending → Bool
  | finished => true
  | failed (.configure _) => true
  | _ => false

/-- A run leaves its master released once if it ends so, and otherwise unreleased. It does not fail
in a cycle. -/
structure Outcome.Settled (o : Outcome (Recorded M)) : Prop where
  releases : ∀ r, o.master = some r →
    (r.record.map Prod.fst).count .release = if o.ending.releases then 1 else 0
  cycles : ∀ e, o.ending ≠ .failed (.cycle e)

/-- A start that ends the run settles it, and any other leaves a running connection that holds its
master. -/
def Settles {n : GaitName} : Except (Outcome (Recorded M)) (Started (Recorded M) n) → Prop
  | .error o => o.Settled
  | .ok s => s.loop.connection.running = true ∧ s.loop.connection.link.released = false ∧
      ¬ Released s.loop.connection.link.master.record

omit [Master M] in
theorem Outcome.settled_early (e : RunError) (h : ∀ e', e ≠ .cycle e') :
    (Outcome.early e : Outcome (Recorded M)).Settled :=
  ⟨nofun, fun e' he => h e' (Ending.failed.inj he)⟩

omit [Master M] in
/-- A run that ends while it holds its master. -/
theorem Outcome.settled_held {r : Recorded M} {ending : Ending}
    {archive : Option (Archive (Record Float))} {published : List TelemetryPacket}
    (hrecord : ¬ Released r.record) (hending : ending.releases = false)
    (hcycles : ∀ e, ending ≠ .failed (.cycle e)) :
    (⟨ending, some r, archive, published⟩ : Outcome (Recorded M)).Settled := by
  refine ⟨fun r' hr' => ?_, hcycles⟩
  cases hr'
  rw [hending]
  exact List.count_eq_zero.mpr hrecord

theorem NetParams.fault?_cases {env : Environment} {p : NetParams} {e : RunError}
    (h : p.fault? env = some e) : (∃ f, e = .operator f) ∨ ∃ f, e = .telemetry f := by
  unfold fault? at h
  split at h
  · next f _ =>
    cases h
    exact .inl ⟨f, rfl⟩
  · next f _ _ =>
    cases h
    exact .inr ⟨f, rfl⟩
  · cases h

/-- A sequence fails with the error of its first part, in the words of the whole, or in its rest. -/
theorem of_bind_mapError_eq_error {ε δ β γ : Type} {x : Except ε β} {f : ε → δ}
    {g : β → Except δ γ} {d : δ} (h : x.mapError f >>= g = .error d) :
    (∃ e, d = f e) ∨ ∃ b, g b = .error d := by
  cases x with
  | error e => exact .inl ⟨e, (Except.error.inj h).symm⟩
  | ok b => exact .inr ⟨b, h⟩

theorem RunParams.load_error {env : Environment} {e : RunError} (h : load env = .error e)
    (e' : FieldbusError) : e ≠ .cycle e' := by
  rintro rfl
  obtain ⟨_, ⟨⟩⟩ | ⟨_, h⟩ := of_bind_mapError_eq_error h
  obtain ⟨_, ⟨⟩⟩ | ⟨_, h⟩ := of_bind_mapError_eq_error h
  obtain ⟨_, ⟨⟩⟩ | ⟨loop, h⟩ := of_bind_mapError_eq_error h
  obtain ⟨_, ⟨⟩⟩ | ⟨bus, h⟩ := of_bind_mapError_eq_error h
  obtain ⟨_, ⟨⟩⟩ | ⟨net, h⟩ := of_bind_mapError_eq_error h
  cases h

/-- A configuration that fails releases the master once, and one that succeeds holds it. -/
theorem Connection.configure_releases (p : FieldbusParams Float) (now : Nat) (m : M) :
    match configure p now (Recorded.unasked m) with
    | (.error (.bus _), r) => (r.record.map Prod.fst).count .release = 1
    | (.error .clockOverflow, r) => ¬ Released r.record
    | (.ok c, _) => c.link.released = false ∧ ¬ Released c.link.master.record := by
  cases hcheck : p.check with
  | error e =>
    have hrefused : configure p now (Recorded.unasked m) =
        (.error (.bus (.invalidParams e)), Master.release (.unasked m)) := by
      simp only [configure, hcheck]
    rw [hrefused]
    rfl
  | ok _ =>
    obtain ⟨w, -, hconfigured⟩ := configure_configured hcheck now m
    generalize configure p now (Recorded.unasked m) = outcome at hconfigured ⊢
    obtain ⟨answer, r⟩ := outcome
    cases hconfigured with
    | slavesFailed hbreaks =>
      have hplan := w.plan_not_released p now 0
      exact count_release_append ((hbreaks.append_right _).not_released hplan)
    | unclocked hnone => simp [Released, Wiring.slavesPlan]
    | clocksFailed _ hbreaks =>
      exact count_release_append (hbreaks.not_released (w.plan_not_released p now _))
    | done _ => exact ⟨rfl, w.plan_not_released p now _⟩

/-- Setting up the gait and the network and starting the fieldbus does not release the master, also
if it fails. -/
theorem startConfigured_settles (env : Environment) (n : GaitName) (p : RunParams)
    {c : Connection (Recorded M) Float} (hheld : c.link.released = false)
    (hrecord : ¬ Released c.link.master.record) : Settles (startConfigured env n p c) := by
  unfold startConfigured
  split
  · exact Outcome.settled_held hrecord rfl nofun
  · split
    · next e hfault =>
      obtain ⟨f, rfl⟩ | ⟨f, rfl⟩ := NetParams.fault?_cases hfault
      · exact Outcome.settled_held hrecord rfl nofun
      · exact Outcome.settled_held hrecord rfl nofun
    · have hkeeps := c.start_keeps
      have hstarted := hkeeps.holds.not_released hrecord
      obtain ⟨e, r, -, hfailed⟩ | ⟨r, -, hdone⟩ := c.start_cases
      · rw [hfailed] at hstarted ⊢
        exact Outcome.settled_held hstarted rfl nofun
      · rw [hdone] at hstarted ⊢
        dsimp only [Started.of]
        cases Clock.nanos? p.loop.period with
        | none => exact Outcome.settled_held hstarted rfl nofun
        | some period => exact ⟨rfl, hheld, hstarted⟩

/-- A configuration that fails releases the master once, and one that succeeds holds it. -/
theorem RunRequest.start_settles (requestMaster : FieldbusParams Float → Except FieldbusError M)
    (env : Environment) (request : RunRequest) :
    Settles (request.start (Recorded.requesting requestMaster) env) := by
  unfold start
  split
  · next e hload => exact Outcome.settled_early _ (RunParams.load_error hload)
  · next p _ =>
    split
    · exact Outcome.settled_early _ nofun
    · unfold Recorded.requesting
      cases requestMaster p.bus with
      | error e => exact Outcome.settled_early _ nofun
      | ok m =>
        dsimp only [Except.map]
        have hreleases := Connection.configure_releases p.bus env.now m
        split
        · next e r hfailed =>
          rw [hfailed] at hreleases
          refine ⟨fun r' hr' => ?_, nofun⟩
          cases hr'
          exact hreleases
        · next r hfailed =>
          rw [hfailed] at hreleases
          exact Outcome.settled_held hreleases rfl nofun
        · next c r hconfigured =>
          rw [hconfigured] at hreleases
          exact startConfigured_settles env request.gait p hreleases.1 hreleases.2

/-- A loop that was made ready on a connection that runs ends the run in one of three ways. -/
theorem Started.run_settled {n : GaitName} {s : Started (Recorded M) n} (h : Settles (.ok s))
    (cycles : Option Nat) (moments : List (Moment Float)) : (s.run cycles moments).Settled := by
  obtain ⟨hruns, hheld, hrecord⟩ := h
  have hrun : s.loop.connection.Keeps
        (s.loop.run s.limits n.packet? cycles moments).1.connection ∧
      ∀ e, (s.loop.run s.limits n.packet? cycles moments).2.1 ≠ .busFailed e :=
    ControlLoop.run_keeps hruns moments
  unfold Started.run
  generalize s.loop.run s.limits n.packet? cycles moments = run at hrun
  obtain ⟨loop, ending, outputs⟩ := run
  obtain ⟨hkeeps, hends⟩ := hrun
  have hopen := hkeeps.released.trans hheld
  have hnot := hkeeps.holds.not_released hrecord
  cases ending with
  | limit =>
    -- Only a loop that reaches its limit is shut down.
    refine ⟨fun r hr => ?_, nofun⟩
    cases hr
    exact ControlLoop.shutDown_releases hopen hnot
  | busFailed e => exact absurd rfl (hends e)
  | interrupted => exact Outcome.settled_held hnot rfl nofun

/-! ## Runs -/

section Requested

variable (requestMaster : FieldbusParams Float → Except FieldbusError M) (env : Environment)

/-- The parameters are loaded, and a master is requested with them. -/
def RunRequest.Requests (request : RunRequest) : Prop :=
  ∃ p m, RunParams.load env = .ok p ∧ request.sim = true ∧ requestMaster p.bus = .ok m

theorem startConfigured_master {n : GaitName} {p : RunParams} {c : Connection M Float}
    {o : Outcome M} (h : startConfigured env n p c = .error o) : o.master.isSome = true := by
  unfold startConfigured at h
  split at h
  · cases h
    rfl
  · split at h
    · cases h
      rfl
    · split at h
      · cases h
        rfl
      · unfold Started.of at h
        split at h
        · cases h
          rfl
        · cases h

/-- A run leaves a master exactly if one was requested. -/
theorem RunRequest.run_master (request : RunRequest) (moments : List (Moment Float)) :
    (request.run requestMaster env moments).master.isSome = true ↔
      request.Requests requestMaster env := by
  unfold run start Requests
  cases hload : RunParams.load env with
  | error e =>
    refine iff_of_false nofun ?_
    rintro ⟨p, m, hp, -⟩
    cases hp
  | ok p =>
    dsimp only
    by_cases hsim : request.sim = true
    · rw [if_neg (not_not.mpr hsim)]
      cases hrequest : requestMaster p.bus with
      | error e =>
        refine iff_of_false nofun ?_
        rintro ⟨p', m, hp, -, hm⟩
        cases hp
        cases hrequest.symm.trans hm
      | ok m =>
        refine iff_of_true ?_ ⟨p, m, rfl, hsim, hrequest⟩
        dsimp only
        split
        · next o ho =>
          split at ho
          · cases ho
            rfl
          · cases ho
            rfl
          · exact startConfigured_master env ho
        · unfold Started.run
          dsimp only
          split <;> rfl
    · rw [if_pos hsim]
      exact iff_of_false nofun fun ⟨_, _, _, hrequested, _⟩ => hsim hrequested

end Requested

/-- A run leaves a master if one was requested. It releases the master once if it finishes or if its
configuration fails, and not if it ends in another way. It does not fail in a cycle. -/
theorem RunRequest.run_releases (requestMaster : FieldbusParams Float → Except FieldbusError M)
    (env : Environment) (moments : List (Moment Float)) (request : RunRequest) :
    let o := request.run (Recorded.requesting requestMaster) env moments
    request.run requestMaster env moments = o.unrecorded ∧
      (o.master.isSome = true ↔ request.Requests requestMaster env) ∧
      (∀ e, o.ending ≠ .failed (.cycle e)) ∧
      ∀ r, o.master = some r →
        (r.record.map Prod.fst).count .release = if o.ending.releases then 1 else 0 := by
  intro o
  have hsettled : o.Settled := by
    have hstart := request.start_settles requestMaster env
    show (RunRequest.run _ _ _ _).Settled
    unfold run
    split
    · next o' ho' =>
      rw [ho'] at hstart
      exact hstart
    · next s hs =>
      rw [hs] at hstart
      exact s.run_settled hstart request.cycles moments
  have hrecorded := request.run_recorded requestMaster env moments
  refine ⟨hrecorded, ?_, hsettled.cycles, hsettled.releases⟩
  rw [← request.run_master requestMaster env moments, hrecorded]
  show o.master.isSome = true ↔ (o.master.map Recorded.master).isSome = true
  rw [Option.isSome_map]

/-- There are no parameters for the gait of this run. -/
theorem backward_unreleased :
    (match RunRequest.run (Recorded.requesting FieldbusParams.requestSim) backward []
        ⟨.sinWave, true, none⟩ with
      | ⟨.failed _, some r, _, _⟩ => (r.record.map Prod.fst).count .release == 0
      | _ => false) = true := by
  decide +kernel

/-- A gait that cannot be set up leaves the fieldbus master unreleased. -/
theorem not_always_released :
    ¬ ∀ (env : Environment) (moments : List (Moment Float)) (request : RunRequest),
      let o := request.run (Recorded.requesting FieldbusParams.requestSim) env moments
      (o.ending = .finished ∨ ∃ e, o.ending = .failed e) →
        ∀ r, o.master = some r → (r.record.map Prod.fst).count .release = 1 := by
  intro hall
  have hreleased := hall backward [] ⟨.sinWave, true, none⟩
  have hunreleased := backward_unreleased
  split at hunreleased
  · next e r archive published ho =>
    rw [ho] at hreleased
    rw [hreleased (.inr ⟨e, rfl⟩) r rfl] at hunreleased
    cases hunreleased
  · cases hunreleased

end BoomWalker
