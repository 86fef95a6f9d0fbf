/-
When the master is released, and what is asked of it afterwards.

Main statement: a configuration that is refused or breaks off releases the master last of all; only
one whose clock shift fits no word leaves it unreleased. The master of a connection is released when
the connection is closed, and only then; so it is released at most once. The handles outlive the
connection: each command that they submit later on still has the domain queued and sent, which is
all that a released master is asked. So the release is the last that is asked of a master if no
command is submitted after it, and not otherwise (`not_released_last`).
-/
import BoomWalker.Proofs.Fieldbus.Configuring

namespace BoomWalker

variable {M α β : Type}

/-! ## A master that is held -/

/-- Was the master released? -/
def Released (record : List MasterEntry) : Prop := .release ∈ record.map Prod.fst

theorem not_released_append {record record' : List MasterEntry} :
    ¬ Released (record ++ record') ↔ ¬ Released record ∧ ¬ Released record' := by
  unfold Released
  rw [List.map_append, List.mem_append, not_or]

theorem BreaksOff.not_released {e : FieldbusError} {plan record : List MasterEntry}
    (h : BreaksOff e plan record) (hplan : ¬ Released plan) : ¬ Released record :=
  fun hreleased => hplan (h.calls_prefix.subset hreleased)

theorem Wiring.plan_not_released (w : Wiring) (p : FieldbusParams α) (now shift : Nat) :
    ¬ Released (w.plan p now shift) := by
  simp [Released, plan, slavesPlan, clocksPlan]

/-- More may have been asked of the master, but not to be released. -/
def Recorded.Holds (r r' : Recorded M) : Prop :=
  ∃ asked, r'.record = r.record ++ asked ∧ ¬ Released asked

namespace Recorded.Holds

variable {r r' r'' : Recorded M}

theorem refl (r : Recorded M) : r.Holds r :=
  ⟨[], (List.append_nil _).symm, List.not_mem_nil⟩

theorem trans (h : r.Holds r') (h' : r'.Holds r'') : r.Holds r'' := by
  obtain ⟨asked, hrecord, hheld⟩ := h
  obtain ⟨asked', hrecord', hheld'⟩ := h'
  refine ⟨asked ++ asked', ?_, not_released_append.mpr ⟨hheld, hheld'⟩⟩
  rw [hrecord', hrecord, List.append_assoc]

theorem entry {call : MasterCall} {answer : MasterAnswer} (hcall : call ≠ .release)
    (hrecord : r'.record = r.record ++ [(call, answer)]) : r.Holds r' :=
  ⟨[(call, answer)], hrecord, fun h => hcall (List.mem_singleton.mp h).symm⟩

theorem tell (h : r.Holds r') (call : MasterCall) (hcall : call ≠ .release) (f : M → M) :
    r.Holds (r'.tell call f) :=
  h.trans (entry hcall rfl)

theorem send [Master M] (h : r.Holds r') : r.Holds (Master.send r') :=
  h.tell (.send (Master.domain r'.master)) nofun Master.send

theorem ask (call : MasterCall) (hcall : call ≠ .release) (answer : β → MasterAnswer)
    (x : Setup M β) (r : Recorded M) : r.Holds ((Recorded.ask call answer x).run r).2 := by
  cases hx : x.run r.master with
  | mk given m =>
    cases given with
    | error e =>
      rw [Recorded.ask_error hx]
      exact entry hcall rfl
    | ok b =>
      rw [Recorded.ask_ok hx]
      exact entry hcall rfl

/-- A master that is still held was not released before either. -/
theorem not_released (h : r.Holds r') (hr : ¬ Released r.record) : ¬ Released r'.record := by
  obtain ⟨asked, hrecord, hheld⟩ := h
  rw [hrecord]
  exact not_released_append.mpr ⟨hr, hheld⟩

end Recorded.Holds

/-! ## Events -/

/-- What a submitted command has the master do. -/
def sending (domain : Bytes) : List MasterEntry := [(.queueDomain, .done), (.send domain, .done)]

theorem sending_not_released (domain : Bytes) : ¬ Released (sending domain) := by
  simp [Released, sending]

/-- Does the event submit a command? -/
def BusEvent.submits : BusEvent α → Bool
  | submit _ => true
  | _ => false

/-- The connection still holds its master, and has noted no release since. -/
structure Connection.Keeps (c c' : Connection (Recorded M) α) : Prop where
  holds : c.link.master.Holds c'.link.master
  released : c'.link.released = c.link.released

namespace Connection

theorem Keeps.refl (c : Connection (Recorded M) α) : c.Keeps c := ⟨.refl _, rfl⟩

theorem Keeps.trans {c c' c'' : Connection (Recorded M) α} (h : c.Keeps c') (h' : c'.Keeps c'') :
    c.Keeps c'' :=
  ⟨h.holds.trans h'.holds, h'.released.trans h.released⟩

variable [Master M]

theorem start_keeps (c : Connection (Recorded M) α) : c.Keeps c.start.2 := by
  have hactivate : c.link.master.Holds
      ((Master.activate : Setup (Recorded M) Unit).run c.link.master).2 :=
    .ask .activate nofun _ _ _
  obtain ⟨e, r, hrun, hfailed⟩ | ⟨r, hrun, hstarted⟩ := c.start_cases
  · rw [hrun] at hactivate
    rw [hfailed]
    exact ⟨hactivate, rfl⟩
  · rw [hrun] at hactivate
    rw [hstarted]
    exact ⟨hactivate, rfl⟩

theorem sendPhase_keeps (c : Connection (Recorded M) α) (now : Nat) :
    c.Keeps (c.sendPhase now) := by
  have htime : c.link.master.Holds (Master.applicationTime now c.link.master) :=
    (Recorded.Holds.refl _).tell (.applicationTime now) nofun _
  have hreference : c.link.master.Holds
      (Master.syncReferenceClock (Master.applicationTime now c.link.master)) :=
    htime.tell .syncReferenceClock nofun _
  have hsend {r : Recorded M} (h : c.link.master.Holds r) : c.link.master.Holds
      (Master.send (Master.queueDomain (Master.syncSlaveClocks r))) :=
    ((h.tell .syncSlaveClocks nofun _).tell .queueDomain nofun _).send
  refine ⟨?_, rfl⟩
  unfold sendPhase
  dsimp only
  split
  · exact hsend hreference
  · exact hsend htime

variable [Transmit α]

theorem submit_record (l : Link (Recorded M)) (cmd : Command α) :
    ∃ domain, (l.submit cmd).master.record = l.master.record ++ sending domain :=
  ⟨_, List.append_assoc _ _ _⟩

theorem submits_keeps (c : Connection (Recorded M) α) (cmds : List (Command α)) :
    c.Keeps (cmds.foldl submit c) := by
  induction cmds generalizing c with
  | nil => exact .refl c
  | cons cmd cmds ih =>
    obtain ⟨domain, hrecord⟩ := submit_record c.link cmd
    have hsubmit : c.Keeps (c.submit cmd) :=
      ⟨⟨sending domain, hrecord, sending_not_released domain⟩, rfl⟩
    exact hsubmit.trans (ih (c.submit cmd))

theorem receivePhase_keeps (c : Connection (Recorded M) α) : c.Keeps c.receivePhase.2 := by
  obtain ⟨-, -, -, hmaster⟩ := c.receivePhase_received
  constructor
  · rw [hmaster]
    exact ((Recorded.Holds.refl _).tell .receive nofun _).tell .processDomain nofun _
  · unfold receivePhase
    dsimp only
    split
    · split
      · rfl
      · rfl
    · rfl

theorem cycle_keeps (c : Connection (Recorded M) α) (now : Nat) (between : List (Command α)) :
    c.Keeps (c.cycle now between).2 := by
  cases hrunning : c.running with
  | true =>
    rw [cycle_of_running hrunning]
    exact ((c.sendPhase_keeps now).trans (submits_keeps _ between)).trans
      (c.underway now between).receivePhase_keeps
  | false =>
    rw [cycle_of_stopped hrunning]
    exact .refl c

end Connection

namespace Bus

/-- What was asked of the master so far. -/
def record (b : Bus (Recorded M) α) : List MasterEntry := b.link.master.record

variable [Master M] [Transmit α]

/-- Every event but the closing of the connection. -/
theorem step_keeps (c : Connection (Recorded M) α) {e : BusEvent α} (he : .cleanup ≠ e) :
    ∃ c', ((connected c).step e).1 = connected c' ∧ c.Keeps c' := by
  cases e with
  | start =>
    refine ⟨c.start.2, ?_, c.start_keeps⟩
    obtain ⟨e, r, -, hfailed⟩ | ⟨r, -, hstarted⟩ := c.start_cases
    · rw [step_start_error hfailed, hfailed]
    · rw [step_start_ok hstarted, hstarted]
  | cycle now between =>
    refine ⟨(c.cycle now between).2, ?_, c.cycle_keeps now between⟩
    cases hrunning : c.running with
    | true =>
      have hcycle := Connection.cycle_of_running hrunning now between
      rw [step_cycle_ok hcycle, hcycle]
    | false =>
      have hcycle := Connection.cycle_of_stopped hrunning now between
      rw [step_cycle_error hcycle, hcycle]
  | submit cmd => exact ⟨c.submit cmd, rfl, c.submits_keeps [cmd]⟩
  | stop => exact ⟨c.stop, rfl, .refl _, rfl⟩
  | cleanup => exact absurd rfl he

theorem run_keeps (c : Connection (Recorded M) α) {es : List (BusEvent α)} (hes : .cleanup ∉ es) :
    ∃ c', ((connected c).run es).1 = connected c' ∧ c.Keeps c' := by
  induction es generalizing c with
  | nil => exact ⟨c, rfl, .refl c⟩
  | cons e es ih =>
    obtain ⟨c₁, hstep, hfirst⟩ := step_keeps c (List.ne_of_not_mem_cons hes)
    obtain ⟨c', hrun, hrest⟩ := ih c₁ (List.not_mem_of_not_mem_cons hes)
    refine ⟨c', ?_, hfirst.trans hrest⟩
    rw [run_cons, hstep]
    exact hrun

/-- What the handles that are left have the master do. -/
theorem run_closed (l : Link (Recorded M)) (es : List (BusEvent α)) :
    ∃ domains : List Bytes, domains.length = es.countP BusEvent.submits ∧
      ((closed l : Bus (Recorded M) α).run es).1.record =
        l.master.record ++ domains.flatMap sending := by
  induction es generalizing l with
  | nil => exact ⟨[], rfl, (List.append_nil _).symm⟩
  | cons e es ih =>
    cases e with
    | submit cmd =>
      obtain ⟨domain, hrecord⟩ := Connection.submit_record l cmd
      obtain ⟨domains, hlength, hrun⟩ := ih (l.submit cmd)
      refine ⟨domain :: domains, ?_, ?_⟩
      · rw [List.countP_cons_of_pos rfl, List.length_cons, hlength]
      · rw [run_cons, List.flatMap_cons, ← List.append_assoc, ← hrecord]
        exact hrun
    | start => exact ih l
    | cycle now between => exact ih l
    | stop => exact ih l
    | cleanup => exact ih l

/-- The master is released when the connection is closed, and all that is asked of it afterwards is
to send the commands that are still submitted. -/
theorem run_cleanup {c : Connection (Recorded M) α} (hheld : c.link.released = false)
    {before : List (BusEvent α)} (hbefore : .cleanup ∉ before) (after : List (BusEvent α)) :
    ∃ domains : List Bytes, domains.length = after.countP BusEvent.submits ∧
      ((connected c).run (before ++ .cleanup :: after)).1.record =
        ((connected c).run before).1.record ++ (.release, .done) :: domains.flatMap sending := by
  obtain ⟨c', hrun, hkeeps⟩ := run_keeps c hbefore
  have hcleanup : c'.cleanup =
      { c'.link with master := Master.release c'.link.master, released := true } := by
    unfold Connection.cleanup
    rw [hkeeps.released, hheld]
    rfl
  obtain ⟨domains, hlength, hclosed⟩ := run_closed c'.cleanup after
  refine ⟨domains, hlength, ?_⟩
  rw [run_append, hrun]
  refine hclosed.trans ?_
  rw [hcleanup]
  exact List.append_assoc _ _ _

theorem run_not_released {c : Connection (Recorded M) α}
    (hunreleased : ¬ Released c.link.master.record) {es : List (BusEvent α)}
    (hes : .cleanup ∉ es) : ¬ Released ((connected c).run es).1.record := by
  obtain ⟨c', hrun, hkeeps⟩ := run_keeps c hes
  rw [hrun]
  exact hkeeps.holds.not_released hunreleased

/-- Whatever is asked of a connection and its handles, the master is released at most once. -/
theorem run_releases_le {c : Connection (Recorded M) α} (hheld : c.link.released = false)
    (hunreleased : ¬ Released c.link.master.record) (es : List (BusEvent α)) :
    (((connected c).run es).1.record.map Prod.fst).count .release ≤ 1 := by
  by_cases hclosed : .cleanup ∈ es
  · obtain ⟨before, after, rfl, hbefore⟩ := List.eq_append_cons_of_mem hclosed
    obtain ⟨domains, -, hrecord⟩ := run_cleanup hheld hbefore after
    have hasked := run_not_released hunreleased hbefore
    have hsent : ¬ Released (domains.flatMap sending) := by simp [Released, sending]
    rw [hrecord, List.map_append, List.map_cons, List.count_append, List.count_cons_self,
      List.count_eq_zero.mpr hasked, List.count_eq_zero.mpr hsent]
  · rw [List.count_eq_zero.mpr (run_not_released hunreleased hclosed)]
    exact Nat.zero_le 1

variable [Scalar α]

/-- A connection to a master of which nothing was asked yet, and its handles. -/
theorem run_released (p : FieldbusParams α) (now : Nat) (m : M) :
    match Connection.configure p now (Recorded.unasked m) with
    | (.error (.bus _), r) => ∃ asked, ¬ Released asked ∧ r.record = asked ++ [(.release, .done)]
    | (.error .clockOverflow, r) => ¬ Released r.record
    | (.ok c, _) =>
      (Connection.configure p now m).1 = .ok c.unrecorded ∧
      (∀ es, ((connected c.unrecorded).run es).1 = ((connected c).run es).1.unrecorded) ∧
      (∀ es, (((connected c).run es).1.record.map Prod.fst).count .release ≤ 1) ∧
      ∀ before, .cleanup ∉ before →
        ¬ Released ((connected c).run before).1.record ∧
        ∀ after, ∃ domains : List Bytes,
          domains.length = after.countP BusEvent.submits ∧
          ((connected c).run (before ++ .cleanup :: after)).1.record =
            ((connected c).run before).1.record ++
              (.release, .done) :: domains.flatMap sending := by
  have hrecorded := Connection.configure_recorded p now (.unasked m)
  cases hcheck : p.check with
  | error e =>
    have hrefused : Connection.configure p now (Recorded.unasked m) =
        (.error (.bus (.invalidParams e)), Master.release (.unasked m)) := by
      simp only [Connection.configure, hcheck]
    rw [hrefused]
    exact ⟨[], List.not_mem_nil, rfl⟩
  | ok _ =>
    obtain ⟨w, -, hconfigured⟩ := Connection.configure_configured hcheck now m
    generalize Connection.configure p now (Recorded.unasked m) = outcome at hrecorded hconfigured ⊢
    obtain ⟨answer, r⟩ := outcome
    cases hconfigured with
    | slavesFailed hbreaks =>
      have hplan := w.plan_not_released p now 0
      exact ⟨_, (hbreaks.append_right _).not_released hplan, rfl⟩
    | unclocked hnone => simp [Released, Wiring.slavesPlan]
    | clocksFailed _ hbreaks =>
      exact ⟨_, hbreaks.not_released (w.plan_not_released p now _), rfl⟩
    | @done shift _ _ =>
      have hunreleased := w.plan_not_released p now shift
      have hseen (c : Connection (Recorded M) α) (es : List (BusEvent α)) :
          ((connected c.unrecorded).run es).1 = ((connected c).run es).1.unrecorded :=
        congrArg Prod.fst (run_recorded (connected c) es)
      refine ⟨congrArg Prod.fst hrecorded, hseen _, run_releases_le rfl hunreleased, ?_⟩
      intro before hbefore
      exact ⟨run_not_released hunreleased hbefore, run_cleanup rfl hbefore⟩

/-- A command that is submitted after the connection was closed. -/
theorem scripted_run_released :
    let script : ScriptedMaster := ⟨fun _ => false, fun _ => default, [], .op, [], []⟩
    let late : Command Float := ⟨.both .zero, .idle⟩
    ∃ c, (Connection.configure .standard 0 (Recorded.unasked script)).1 = .ok c ∧
      .cleanup ∉ ([.start] : List (BusEvent Float)) ∧
      ∃ domain, ((connected c).run [.start, .cleanup, .submit late]).1.record =
        ((connected c).run [.start]).1.record ++ (.release, .done) :: sending domain := by
  intro script late
  have hbefore : .cleanup ∉ ([.start] : List (BusEvent Float)) := by simp
  have hreleased := run_released (.standard : FieldbusParams Float) 0 script
  obtain ⟨c, r, hconfigured⟩ : ∃ c r,
      Connection.configure (.standard : FieldbusParams Float) 0 (Recorded.unasked script) =
        (.ok c, r) := ⟨_, _, rfl⟩
  rw [hconfigured] at hreleased ⊢
  obtain ⟨-, -, -, hclosed⟩ := hreleased
  obtain ⟨-, hrecord⟩ := hclosed [.start] hbefore
  obtain ⟨domains, hlength, hsent⟩ := hrecord [.submit late]
  obtain ⟨domain, rfl⟩ := List.length_eq_one_iff.mp hlength
  refine ⟨c, rfl, hbefore, domain, ?_⟩
  rw [List.flatMap_singleton] at hsent
  exact hsent

/-- The release is not the last that is asked of every master. -/
theorem not_released_last :
    ¬ ∀ (M : Type) [Master M] (p : FieldbusParams Float) (now : Nat) (m : M)
        (c : Connection (Recorded M) Float),
        (Connection.configure p now (Recorded.unasked m)).1 = .ok c →
        ∀ (es : List (BusEvent Float)) (asked after : List MasterEntry),
          ((connected c).run es).1.record = asked ++ (.release, .done) :: after → after = [] := by
  intro hlast
  let script : ScriptedMaster := ⟨fun _ => false, fun _ => default, [], .op, [], []⟩
  let late : Command Float := ⟨.both .zero, .idle⟩
  let wiring : Wiring := ⟨⟨1, 2⟩, ⟨0, 1⟩, ⟨default, default⟩⟩
  have hnothing : sending [] = [] :=
    hlast ScriptedMaster .standard 0 script _ rfl [.cleanup, .submit late]
      (wiring.plan (.standard : FieldbusParams Float) 0 1000000) (sending []) rfl
  cases hnothing

end Bus

end BoomWalker
