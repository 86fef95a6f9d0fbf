/-
Runs of the control loop.

A run of the loop is a run of its supervisor on what the cycles bring (`run_supervisor`): the times
and receipts of the moments, and the states that the fieldbus delivers in them. So what every cycle
of a supervisor keeps holds before each cycle of the loop (`run_invariant`, `run_before`).
-/
import BoomWalker.Supervisor.Loop
import Mathlib.Data.List.Induction

namespace BoomWalker

variable {α : Type} [Scalar α]

/-! ## Runs of a supervisor -/

namespace Supervisor

variable {g : Gait α} {limits : CycleLimits} {read : String → Option (OperatorPacket g.Input)}

theorem run_append (s : Supervisor g) (is js : List (CycleInput α)) :
    (s.run limits read (is ++ js)).1 =
      ((s.run limits read is).1.run limits read js).1 := by
  induction is generalizing s with
  | nil => rfl
  | cons i is ih => exact ih (s.cycle limits read i).1

theorem run_concat (s : Supervisor g) (is : List (CycleInput α)) (i : CycleInput α) :
    (s.run limits read (is ++ [i])).1 =
      ((s.run limits read is).1.cycle limits read i).1 := by
  rw [run_append]
  rfl

/-- What is true of the past and the supervisor at the start, and kept by every cycle, is true after
every run. -/
theorem run_invariant {P : List (CycleInput α) → Supervisor g → Prop} {s : Supervisor g}
    (hstart : P [] s)
    (hcycle : ∀ past s i, P past s → P (past ++ [i]) (s.cycle limits read i).1)
    (is : List (CycleInput α)) : P is (s.run limits read is).1 := by
  induction is using List.reverseRecOn with
  | nil => exact hstart
  | append_singleton is i ih =>
    rw [run_concat]
    exact hcycle is _ i ih

end Supervisor

/-! ## Runs of the loop -/

namespace ControlLoop

variable {M : Type} [Master M] [Transmit α] {g : Gait α} {limits : CycleLimits}
  {read : String → Option (OperatorPacket g.Input)} {max : Option Nat}

/-- A cycle is one of the fieldbus and one of the supervisor, and submits what it says. -/
theorem cycle_ok {l l' : ControlLoop M g} {m : Moment α} {o : CycleOutput g}
    (h : l.cycle limits read m = (l', .ok o)) :
    ∃ state connection, l.connection.cycle m.busTime [] = (.ok state, connection) ∧
      l.supervisor.cycle limits read ⟨m.time, m.receipts, state, m.elapsed⟩ =
        (l'.supervisor, o) ∧
      l'.connection = o.submitted.foldl .submit connection := by
  unfold cycle work at h
  cases hbus : l.connection.cycle m.busTime [] with
  | mk answer connection =>
    rw [hbus] at h
    cases answer with
    | error e => cases h
    | ok state =>
      cases h
      refine ⟨state, connection, rfl, rfl, ?_⟩
      rw [List.foldl_append]

theorem cycle_supervisor {l l' : ControlLoop M g} {m : Moment α} {o : CycleOutput g}
    {state : Option (Snapshot α)} (h : l.cycle limits read m = (l', .ok o))
    (hbus : (l.connection.cycle m.busTime []).1 = .ok state) :
    l.supervisor.cycle limits read ⟨m.time, m.receipts, state, m.elapsed⟩ =
      (l'.supervisor, o) := by
  obtain ⟨state', connection, hbus', hsupervisor, -⟩ := cycle_ok h
  rw [hbus'] at hbus
  cases hbus
  exact hsupervisor

/-- A fieldbus that does not run leaves the loop as it was. -/
theorem cycle_error {l l' : ControlLoop M g} {m : Moment α} {e : FieldbusError}
    (h : l.cycle limits read m = (l', .error e)) :
    l' = l ∧ (l.connection.cycle m.busTime []).1 = .error e := by
  unfold cycle work at h
  cases hrunning : l.connection.running with
  | true =>
    have hbus : l.connection.cycle m.busTime [] =
        (.ok (l.connection.sendPhase m.busTime).receivePhase.1,
          (l.connection.sendPhase m.busTime).receivePhase.2) := by
      unfold Connection.cycle
      rw [hrunning]
      rfl
    rw [hbus] at h
    cases h
  | false =>
    have hbus : l.connection.cycle m.busTime [] = (.error .notRunning, l.connection) := by
      unfold Connection.cycle
      rw [hrunning]
      rfl
    rw [hbus] at h ⊢
    cases h
    exact ⟨rfl, rfl⟩

/-- What the cycles of a run bring to the supervisor. -/
def inputs (limits : CycleLimits) (read : String → Option (OperatorPacket g.Input))
    (max : Option Nat) : ControlLoop M g → List (Moment α) → List (CycleInput α)
  | _, [] => []
  | l, m :: ms =>
    if l.atLimit max then []
    else
      match (l.connection.cycle m.busTime []).1 with
      | .error _ => []
      | .ok state =>
        ⟨m.time, m.receipts, state, m.elapsed⟩ ::
          inputs limits read max (l.cycle limits read m).1 ms

/-- A run either ends before its first moment or goes on from the loop after that cycle. -/
theorem run_cons (limits : CycleLimits) (read : String → Option (OperatorPacket g.Input))
    (max : Option Nat) (l : ControlLoop M g) (m : Moment α) :
    (∀ ms, (l.run limits read max (m :: ms)).1 = l ∧
      (l.run limits read max (m :: ms)).2.2 = [] ∧ l.inputs limits read max (m :: ms) = []) ∨
    ∃ l' o state, l.cycle limits read m = (l', .ok o) ∧
      (l.connection.cycle m.busTime []).1 = .ok state ∧
      ∀ ms, (l.run limits read max (m :: ms)).1 = (l'.run limits read max ms).1 ∧
        (l.run limits read max (m :: ms)).2.2 = o :: (l'.run limits read max ms).2.2 ∧
        l.inputs limits read max (m :: ms) =
          ⟨m.time, m.receipts, state, m.elapsed⟩ :: l'.inputs limits read max ms := by
  by_cases hlimit : l.atLimit max = true
  · refine Or.inl fun ms => ?_
    rw [run, inputs, if_pos hlimit, if_pos hlimit]
    exact ⟨rfl, rfl, rfl⟩
  · cases hcycle : l.cycle limits read m with
    | mk l' answer =>
      cases answer with
      | error e =>
        obtain ⟨rfl, hbus⟩ := cycle_error hcycle
        refine Or.inl fun ms => ?_
        rw [run, inputs, if_neg hlimit, if_neg hlimit, hcycle, hbus]
        exact ⟨rfl, rfl, rfl⟩
      | ok o =>
        obtain ⟨state, connection, hbus, -, -⟩ := cycle_ok hcycle
        refine Or.inr ⟨l', o, state, rfl, by rw [hbus], fun ms => ?_⟩
        rw [run, inputs, if_neg hlimit, if_neg hlimit, hcycle, hbus]
        exact ⟨rfl, rfl, rfl⟩

theorem run_supervisor (l : ControlLoop M g) (ms : List (Moment α)) :
    l.supervisor.run limits read (l.inputs limits read max ms) =
      ((l.run limits read max ms).1.supervisor, (l.run limits read max ms).2.2) := by
  induction ms generalizing l with
  | nil => rfl
  | cons m ms ih =>
    obtain hends | ⟨l', o, state, hcycle, hbus, hgoes⟩ := run_cons limits read max l m
    · obtain ⟨hloop, houtputs, hinputs⟩ := hends ms
      rw [hloop, houtputs, hinputs]
      rfl
    · obtain ⟨hloop, houtputs, hinputs⟩ := hgoes ms
      rw [hloop, houtputs, hinputs, Supervisor.run, cycle_supervisor hcycle hbus]
      simp only [ih l']

/-- The run of a prefix of the moments brings a prefix of the inputs. -/
theorem inputs_take (l : ControlLoop M g) (ms : List (Moment α)) (k : Nat) :
    l.inputs limits read max (ms.take k) = (l.inputs limits read max ms).take k := by
  induction ms generalizing l k with
  | nil => rw [List.take_nil, inputs, List.take_nil]
  | cons m ms ih =>
    cases k with
    | zero => rfl
    | succ k =>
      rw [List.take_succ_cons]
      obtain hends | ⟨l', o, state, -, -, hgoes⟩ := run_cons limits read max l m
      · rw [(hends _).2.2, (hends _).2.2, List.take_nil]
      · rw [(hgoes _).2.2, (hgoes _).2.2, List.take_succ_cons, ih]

/-- The inputs have the lengths of the moments that were gone through. -/
theorem elapsed_inputs (l : ControlLoop M g) (ms : List (Moment α)) :
    (l.inputs limits read max ms).map CycleInput.elapsed =
      (ms.map Moment.elapsed).take (l.run limits read max ms).2.2.length := by
  induction ms generalizing l with
  | nil => rfl
  | cons m ms ih =>
    obtain hends | ⟨l', o, state, -, -, hgoes⟩ := run_cons limits read max l m
    · rw [(hends ms).2.1, (hends ms).2.2]
      rfl
    · rw [(hgoes ms).2.1, (hgoes ms).2.2, List.map_cons, List.map_cons, List.length_cons,
        List.take_succ_cons, ih]

theorem elapsed_inputs_take {l : ControlLoop M g} {ms : List (Moment α)} {k : Nat}
    (hk : k ≤ (l.run limits read max ms).2.2.length) :
    ((l.inputs limits read max ms).take k).map CycleInput.elapsed =
      (ms.take k).map Moment.elapsed := by
  rw [List.map_take, elapsed_inputs, List.take_take, Nat.min_eq_left hk, List.map_take]

/-- The cycle at a place of a run: it starts from the loop that the run of the moments before
leaves, and leaves the loop that the run up to and with it leaves. -/
theorem run_place (l : ControlLoop M g) (ms : List (Moment α)) (k : Nat) {o : CycleOutput g}
    (ho : (l.run limits read max ms).2.2[k]? = some o) :
    ∃ m state, ms[k]? = some m ∧
      (l.inputs limits read max ms)[k]? = some ⟨m.time, m.receipts, state, m.elapsed⟩ ∧
      ((l.run limits read max (ms.take k)).1.connection.cycle m.busTime []).1 = .ok state ∧
      (l.run limits read max (ms.take k)).1.cycle limits read m =
        ((l.run limits read max (ms.take (k + 1))).1, .ok o) := by
  -- The start is generalised: the run of a prefix goes on from the loop after its first cycle.
  induction ms generalizing l k with
  | nil => cases ho
  | cons m ms ih =>
    obtain hends | ⟨l', o', state, hcycle, hbus, hgoes⟩ := run_cons limits read max l m
    · rw [(hends ms).2.1] at ho
      cases ho
    · rw [(hgoes ms).2.1] at ho
      rw [(hgoes ms).2.2, List.take_succ_cons, (hgoes (ms.take k)).1]
      cases k with
      | zero =>
        cases ho
        exact ⟨m, state, rfl, rfl, hbus, hcycle⟩
      | succ k =>
        rw [List.take_succ_cons, (hgoes (ms.take k)).1]
        exact ih l' k ho

/-- What is true of the past and the supervisor at the start, and kept by every cycle, is true
before each cycle of a run. -/
theorem run_before (max : Option Nat) {P : List (CycleInput α) → Supervisor g → Prop}
    {l : ControlLoop M g} (hstart : P [] l.supervisor)
    (hcycle : ∀ past s i, P past s → P (past ++ [i]) (s.cycle limits read i).1)
    (ms : List (Moment α)) (k : Nat) :
    P ((l.inputs limits read max ms).take k)
      (l.run limits read max (ms.take k)).1.supervisor := by
  have hrun : (l.run limits read max (ms.take k)).1.supervisor =
      (l.supervisor.run limits read ((l.inputs limits read max ms).take k)).1 := by
    rw [← inputs_take, run_supervisor]
  rw [hrun]
  exact Supervisor.run_invariant hstart hcycle _

end ControlLoop

end BoomWalker
