/-
When a cycle delivers a state.

Main statement: after every run of starts, cycles, submissions and stops, a cycle of a running
connection delivers a state exactly if the slaves are operational in this cycle and were in the one
before, as seen since the latest successful start. The codecs are set up exactly in the cycles in
which the slaves have just become operational, and no state is decoded in a cycle that delivers
none. The history is kept by a `LinkWatch`, which sees only the events, their answers and what the
master reports of the link.
-/
import BoomWalker.Fieldbus.Scripted
import BoomWalker.Proofs.Fieldbus.Phases

namespace BoomWalker

variable {M α : Type} [Master M]

/-! ## Watching a connection -/

/-- What is seen of a connection from outside. -/
structure LinkWatch where
  /-- Was it started, and not stopped since? -/
  running : Bool
  /-- States of the link in the cycles since the latest successful start, the latest first. -/
  links : List LinkState

namespace LinkWatch

/-- Nothing has been seen. -/
def idle : LinkWatch := ⟨false, []⟩

/-- Were the slaves operational in the latest cycle since the start? -/
def Up (w : LinkWatch) : Prop := w.links.head? = some .op

/-- See an event, its answer, and the state of the link after it. -/
def see (w : LinkWatch) (e : BusEvent α) (r : BusReply α) (link : LinkState) : LinkWatch :=
  match e, r with
  | .start, .done => ⟨true, []⟩
  | .cycle _ _, _ => if w.running then { w with links := link :: w.links } else w
  | .stop, _ => { w with running := false }
  | _, _ => w

/-- See all events of a run. -/
def watch [Transmit α] (w : LinkWatch) (b : Bus M α) : List (BusEvent α) → LinkWatch
  | [] => w
  | e :: es =>
    let (b', r) := b.step e
    (w.see e r (Master.linkState b'.link.master)).watch b' es

/-- The watch knows what the connection has noted. -/
structure Knows (w : LinkWatch) (c : Connection M α) : Prop where
  running : c.running = w.running
  inOp : c.link.inOp = true ↔ w.Up

theorem not_up_start (running : Bool) : ¬ (⟨running, []⟩ : LinkWatch).Up := by
  intro hup
  cases hup

theorem up_cons (running : Bool) (link : LinkState) (links : List LinkState) :
    (⟨running, link :: links⟩ : LinkWatch).Up ↔ link = .op :=
  Option.some_inj

end LinkWatch

open LinkWatch

variable [Transmit α] {w : LinkWatch} {c : Connection M α}

/-! ## One event -/

/-- A cycle of a running connection, as the watch explains it. -/
theorem LinkWatch.Knows.cycle_running (h : w.Knows c) (hrunning : w.running = true) (now : Nat)
    (between : List (Command α)) :
    ∃ s c', c.cycle now between = (.ok s, c') ∧
      Connection.Received w.Up (c.underway now between) s c' ∧
      Knows { w with links := c'.linkState :: w.links } c' := by
  obtain ⟨hkrunning, hkop, -⟩ := c.underway_keep now between
  obtain ⟨hreceived, hop, hstill, -⟩ := (c.underway now between).receivePhase_received
  -- What the connection noted of the cycle before is what the watch saw of it.
  rw [hkop, propext h.inOp] at hreceived
  refine ⟨_, _, Connection.cycle_of_running (h.running.trans hrunning) now between, hreceived,
    ?_, ?_⟩
  · rw [hstill, hkrunning]
    exact h.running
  · rw [up_cons]
    exact hop

/-- What the watch sees of an event is what the connection notes. -/
theorem LinkWatch.Knows.step (h : w.Knows c) {e : BusEvent α} (he : e ≠ .cleanup) :
    ∃ c', ((Bus.connected c).step e).1 = .connected c' ∧
      (w.see e ((Bus.connected c).step e).2 c'.linkState).Knows c' := by
  cases e with
  | start =>
    obtain ⟨e, m, -, hfailed⟩ | ⟨m, -, hstarted⟩ := c.start_cases
    · rw [Bus.step_start_error hfailed]
      exact ⟨_, rfl, h.running, h.inOp⟩
    · rw [Bus.step_start_ok hstarted]
      exact ⟨_, rfl, rfl, iff_of_false Bool.false_ne_true (not_up_start true)⟩
  | cycle now between =>
    cases hrunning : w.running with
    | true =>
      obtain ⟨s, c', hcycle, -, hknows⟩ := h.cycle_running hrunning now between
      rw [Bus.step_cycle_ok hcycle]
      refine ⟨c', rfl, ?_⟩
      unfold see
      rw [if_pos hrunning]
      exact hknows
    | false =>
      rw [Bus.step_cycle_error (Connection.cycle_of_stopped (h.running.trans hrunning) now between)]
      refine ⟨c, rfl, ?_⟩
      unfold see
      rw [hrunning]
      exact h
  | submit cmd => exact ⟨c.submit cmd, rfl, h.running, h.inOp⟩
  | stop => exact ⟨c.stop, rfl, rfl, h.inOp⟩
  | cleanup => exact absurd rfl he

/-! ## Runs -/

theorem LinkWatch.Knows.run (h : w.Knows c) {es : List (BusEvent α)}
    (hes : ∀ e ∈ es, e ≠ .cleanup) :
    ∃ c', ((Bus.connected c).run es).1 = .connected c' ∧ (w.watch (.connected c) es).Knows c' := by
  -- The watch is generalised with the connection: it goes on from what it has seen.
  induction es generalizing w c with
  | nil => exact ⟨c, rfl, h⟩
  | cons e es ih =>
    obtain ⟨c₁, hstep, hknows⟩ := h.step (hes e List.mem_cons_self)
    obtain ⟨c', hrun, hwatch⟩ := ih hknows fun e' he' => hes e' (List.mem_cons_of_mem e he')
    refine ⟨c', ?_, ?_⟩
    · rw [Bus.run_cons, hstep]
      exact hrun
    · unfold watch
      dsimp only
      rw [hstep]
      exact hwatch

variable [Scalar α]

/-- After every run, what the next cycle does is a matter of the states of the link in this cycle
and in the one before since the latest successful start. -/
theorem Connection.run_delivers {p : FieldbusParams α} {now : Nat} {m : M} {c₀ : Connection M α}
    (hconfigured : (configure p now m).1 = .ok c₀) {es : List (BusEvent α)}
    (hes : ∀ e ∈ es, e ≠ .cleanup) :
    ∃ c, ((Bus.connected c₀).run es).1 = .connected c ∧
      let w := LinkWatch.idle.watch (.connected c₀) es
      (c.link.inOp = true ↔ w.Up) ∧
        ∀ now between,
          (w.running = false → c.cycle now between = (.error .notRunning, c)) ∧
          (w.running = true → ∃ s c', c.cycle now between = (.ok s, c') ∧
            (s.isSome = true ↔ c'.linkState = .op ∧ w.Up) ∧
            Received w.Up (c.underway now between) s c') := by
  obtain ⟨-, ids, offsets, m₁, shift, m₂, -, -, rfl⟩ := configure_ok hconfigured
  have hidle : idle.Knows (⟨p, ⟨m₂, medullas offsets, false, false⟩, 0, .zero, false, 0⟩ :
      Connection M α) :=
    ⟨rfl, iff_of_false Bool.false_ne_true (not_up_start false)⟩
  obtain ⟨c, hrun, hknows⟩ := hidle.run hes
  refine ⟨c, hrun, hknows.inOp, fun now between => ⟨fun hstopped => ?_, fun hrunning => ?_⟩⟩
  · exact cycle_of_stopped (hknows.running.trans hstopped) now between
  · obtain ⟨s, c', hcycle, hreceived, -⟩ := hknows.cycle_running hrunning now between
    exact ⟨s, c', hcycle, hreceived.isSome_iff, hreceived⟩

/-- Slaves that are operational from the start on: the second cycle delivers a state. -/
theorem Connection.scripted_run_delivers :
    let script : ScriptedMaster := ⟨fun _ => false, fun _ => default, [], .op, [], []⟩
    let c₀ : Connection ScriptedMaster Float :=
      ⟨.standard, ⟨script, medullas [default, default], false, false⟩, 0, .zero, false, 0⟩
    (configure .standard 0 script).1 = .ok c₀ ∧
      ∃ c, ((Bus.connected c₀).run [.start, .cycle 1 []]).1 = .connected c ∧
        ∃ s c', c.cycle 2 [] = (.ok (some s), c') := by
  intro script c₀
  have hconfigured : (configure .standard 0 script).1 = .ok c₀ := rfl
  have hes : ∀ e ∈ ([.start, .cycle 1 []] : List (BusEvent Float)), e ≠ .cleanup := by simp
  obtain ⟨c, hrun, -, hcycle⟩ := run_delivers hconfigured hes
  obtain ⟨s, c', hdelivered, hiff, -⟩ := (hcycle 2 []).2 rfl
  have hop : c'.linkState = .op := by
    cases hrun
    cases hdelivered
    rfl
  obtain ⟨state, rfl⟩ := Option.isSome_iff_exists.mp (hiff.mpr ⟨hop, rfl⟩)
  exact ⟨hconfigured, c, hrun, state, c', hdelivered⟩

end BoomWalker
