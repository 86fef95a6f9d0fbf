/-
Interleavings of a connection with its command handles.

A connection and its handles share the link behind a lock, and what is done while the lock is held
happens in one piece. The connection itself is asked for one thing at a time: once a cycle has sent
its frame, nothing else is asked of the connection until the frame is received. The handles may
submit commands between any two pieces.
-/
import BoomWalker.Proofs.Fieldbus.Phases

namespace BoomWalker

/-- What is done to a connection in one piece. -/
inductive Region (α : Type) where
  | start
  | stop
  /-- The first half of a cycle, at the given time in nanoseconds. -/
  | send (now : Nat)
  /-- The second half of a cycle. -/
  | receive
  /-- A handle submits a command. -/
  | submit (cmd : Command α)

variable {M α : Type}

/-- The command that is submitted, if any. -/
def Region.command? : Region α → Option (Command α)
  | submit cmd => some cmd
  | _ => none

/-- The commands that were submitted, in order. -/
def Region.submissions (rs : List (Region α)) : List (Command α) := rs.filterMap command?

theorem Region.submissions_concat (rs : List (Region α)) (r : Region α) :
    (submissions (rs ++ [r])).getLast? = r.command?.or (submissions rs).getLast? := by
  unfold submissions
  rw [List.filterMap_append, List.getLast?_append]
  cases r <;> rfl

/-- A connection between two pieces. -/
structure Interleaved (M α : Type) where
  connection : Connection M α
  /-- Has a cycle sent its frame, and not received it yet? -/
  waiting : Bool

namespace Interleaved

variable [Master M] [Transmit α]

/-- One piece. Between the halves of a cycle only the handles have a say. -/
inductive Step : Interleaved M α → Region α → Interleaved M α → Prop
  | start (c : Connection M α) : Step ⟨c, false⟩ .start ⟨c.start.2, false⟩
  | stop (c : Connection M α) : Step ⟨c, false⟩ .stop ⟨c.stop, false⟩
  | send (c : Connection M α) (now : Nat) (hrunning : c.running = true) :
      Step ⟨c, false⟩ (.send now) ⟨c.sendPhase now, true⟩
  | receive (c : Connection M α) : Step ⟨c, true⟩ .receive ⟨c.receivePhase.2, false⟩
  | submit (c : Connection M α) (waiting : Bool) (cmd : Command α) :
      Step ⟨c, waiting⟩ (.submit cmd) ⟨c.submit cmd, waiting⟩

/-- A sequence of pieces. -/
inductive Steps (s : Interleaved M α) : List (Region α) → Interleaved M α → Prop
  | nil : Steps s [] s
  | concat {rs : List (Region α)} {r : Region α} {s' s'' : Interleaved M α} :
      Steps s rs s' → Step s' r s'' → Steps s (rs ++ [r]) s''

variable {s s' s'' : Interleaved M α} {rs rs' : List (Region α)}

theorem Steps.append (h : Steps s rs s') (h' : Steps s' rs' s'') : Steps s (rs ++ rs') s'' := by
  induction h' with
  | nil =>
    rw [List.append_nil]
    exact h
  | concat _ hstep ih =>
    rw [← List.append_assoc]
    exact ih.concat hstep

theorem Step.steps {r : Region α} (h : Step s r s') : Steps s [r] s' := Steps.nil.concat h

theorem steps_submits (c : Connection M α) (waiting : Bool) (cmds : List (Command α)) :
    Steps ⟨c, waiting⟩ (cmds.map .submit) ⟨cmds.foldl .submit c, waiting⟩ := by
  induction cmds generalizing c with
  | nil => exact .nil
  | cons cmd cmds ih => exact (Step.submit c waiting cmd).steps.append (ih (c.submit cmd))

/-- A cycle is its two halves, with the submissions between them. -/
theorem steps_cycle {c : Connection M α} (hrunning : c.running = true) (now : Nat)
    (between : List (Command α)) :
    Steps ⟨c, false⟩ (.send now :: between.map .submit ++ [.receive])
      ⟨(c.cycle now between).2, false⟩ := by
  rw [Connection.cycle_of_running hrunning]
  exact ((Step.send c now hrunning).steps.append (steps_submits _ true between)).concat
    (.receive (c.underway now between))

theorem steps_event (c : Connection M α) {e : BusEvent α} (he : e ≠ .cleanup) :
    ∃ rs c', ((Bus.connected c).step e).1 = .connected c' ∧ Steps ⟨c, false⟩ rs ⟨c', false⟩ := by
  cases e with
  | start =>
    refine ⟨[.start], c.start.2, ?_, (Step.start c).steps⟩
    obtain ⟨e, m, -, hfailed⟩ | ⟨m, -, hstarted⟩ := c.start_cases
    · rw [Bus.step_start_error hfailed, hfailed]
    · rw [Bus.step_start_ok hstarted, hstarted]
  | cycle now between =>
    cases hrunning : c.running with
    | true =>
      refine ⟨_, (c.cycle now between).2, ?_, steps_cycle hrunning now between⟩
      rw [Bus.step_cycle_ok (Connection.cycle_of_running hrunning now between),
        Connection.cycle_of_running hrunning]
    | false =>
      refine ⟨[], c, ?_, .nil⟩
      rw [Bus.step_cycle_error (Connection.cycle_of_stopped hrunning now between)]
  | submit cmd => exact ⟨[.submit cmd], c.submit cmd, rfl, (Step.submit c false cmd).steps⟩
  | stop => exact ⟨[.stop], c.stop, rfl, (Step.stop c).steps⟩
  | cleanup => exact absurd rfl he

/-- Every run of a connection that is not closed is a sequence of pieces. -/
theorem steps_run {c : Connection M α} {es : List (BusEvent α)} (hes : ∀ e ∈ es, e ≠ .cleanup) :
    ∃ rs c', ((Bus.connected c).run es).1 = .connected c' ∧ Steps ⟨c, false⟩ rs ⟨c', false⟩ := by
  induction es generalizing c with
  | nil => exact ⟨[], c, rfl, .nil⟩
  | cons e es ih =>
    obtain ⟨rs₁, c₁, hstep, hfirst⟩ := steps_event c (hes e List.mem_cons_self)
    obtain ⟨rs, c', hrun, hsteps⟩ :=
      ih (c := c₁) fun e' he' => hes e' (List.mem_cons_of_mem e he')
    refine ⟨rs₁ ++ rs, c', ?_, hfirst.append hsteps⟩
    rw [Bus.run_cons, hstep]
    exact hrun

/-- What is true of the past and the connection at the start, and kept by every piece, is true after
every sequence of pieces. -/
theorem Steps.invariant {P : List (Region α) → Interleaved M α → Prop} (hstart : P [] s)
    (hstep : ∀ rs s₁ r s₂, P rs s₁ → Step s₁ r s₂ → P (rs ++ [r]) s₂) (h : Steps s rs s') :
    P rs s' := by
  induction h with
  | nil => exact hstart
  | concat _ hlast ih => exact hstep _ _ _ _ ih hlast

end Interleaved

end BoomWalker
