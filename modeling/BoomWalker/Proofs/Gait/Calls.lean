/-
What a controller asks of its gait.

`Gait.traced` is a gait that records every operation asked of it. A controller cannot tell it from
the gait itself (`process_traced`), so its record shows what any gait is asked: one `reset` in a
disabled cycle, and in an enabled cycle one `evaluate`, after an `onEnable` if it is the first since
the gait was disabled.
-/
import BoomWalker.Proofs.Gait.Runs

namespace BoomWalker

variable {α : Type}

/-- An operation asked of a gait. An evaluation shows the command that was answered. -/
inductive GaitCall (g : Gait α) where
  | configure (p : g.Params)
  | reset (snap : Snapshot α)
  | onEnable (snap : Snapshot α)
  | evaluate (period : α) (snap : Snapshot α) (gui : g.Input) (answer : Command α)

/-- The gait with a record of the operations asked of it, in their order. -/
def Gait.traced (g : Gait α) : Gait α where
  Params := g.Params
  Input := g.Input
  State := g.State × List (GaitCall g)
  Report := g.Report
  name := g.name
  defaultParams := g.defaultParams
  defaultInput := g.defaultInput
  initial := (g.initial, [])
  configure := fun p s => (g.configure p s.1, s.2 ++ [.configure p])
  reset := fun p snap s => (g.reset p snap s.1, s.2 ++ [.reset snap])
  onEnable := fun p snap s => (g.onEnable p snap s.1, s.2 ++ [.onEnable snap])
  evaluate := fun p period snap gui s =>
    let (next, answer) := g.evaluate p period snap gui s.1
    ((next, s.2 ++ [.evaluate period snap gui answer]), answer)
  report := fun s => g.report s.1
  log := fun s => g.log s.1

namespace GaitControl

variable {g : Gait α}

/-- The record of a controller's gait. -/
def calls (t : GaitControl g.traced) : List (GaitCall g) := t.gait.2

/-- The controller without the record. -/
def untraced (t : GaitControl g.traced) : GaitControl g :=
  ⟨t.framework, t.params, t.gait.1, t.enabled, t.enabledCycles, t.numCycles⟩

/-- An event, told to a controller that records. -/
def Event.traced : Event g → Event g.traced
  | .process ⟨snap, gui, enabled⟩ => .process ⟨snap, gui, enabled⟩
  | .makeSafe => .makeSafe

variable [Scalar α]

/-- Recording changes neither the controller nor its command. -/
theorem process_traced (t : GaitControl g.traced) (snap : Snapshot α) (gui : g.Input)
    (enabled : Bool) :
    (t.process ⟨snap, gui, enabled⟩).1.untraced = (t.untraced.process ⟨snap, gui, enabled⟩).1 ∧
      (t.process ⟨snap, gui, enabled⟩).2.1 = (t.untraced.process ⟨snap, gui, enabled⟩).2.1 := by
  obtain ⟨framework, params, gait, on, enabledCycles, numCycles⟩ := t
  cases enabled with
  | false => exact ⟨rfl, rfl⟩
  | true =>
    cases on with
    | false => exact ⟨rfl, rfl⟩
    | true => exact ⟨rfl, rfl⟩

theorem step_traced (t : GaitControl g.traced) (e : Event g) :
    (t.step e.traced).1.untraced = (t.untraced.step e).1 := by
  cases e with
  | makeSafe => rfl
  | process i => exact (process_traced t i.state i.gui i.enabled).1

theorem run_traced (t : GaitControl g.traced) (es : List (Event g)) :
    (t.run (es.map Event.traced)).1.untraced = (t.untraced.run es).1 := by
  induction es using List.reverseRecOn with
  | nil => rfl
  | append_singleton es e ih =>
    rw [List.map_append, List.map_singleton, run_concat, run_concat, step_traced, ih]

theorem calls_process_disabled (t : GaitControl g.traced) (snap : Snapshot α) (gui : g.Input) :
    (t.process ⟨snap, gui, false⟩).1.calls = t.calls ++ [.reset snap] := rfl

/-- The operations of an enabled cycle, and the command made of the answer. -/
theorem calls_process_enabled (t : GaitControl g.traced) (snap : Snapshot α) (gui : g.Input) :
    ∃ answer : Command α,
      (t.process ⟨snap, gui, true⟩).1.calls =
        t.calls ++ (if t.enabled then [] else [.onEnable snap]) ++
          [.evaluate t.framework.cyclePeriod snap gui answer] ∧
      (t.process ⟨snap, gui, true⟩).2.1 =
        if t.framework.rampFactor t.streak < 1 then answer.scale (t.framework.rampFactor t.streak)
        else answer := by
  obtain ⟨framework, params, ⟨state, calls⟩, on, enabledCycles, numCycles⟩ := t
  cases on with
  | false =>
    refine ⟨(g.evaluate params framework.cyclePeriod snap gui (g.onEnable params snap state)).2,
      ?_, rfl⟩
    rfl
  | true =>
    refine ⟨(g.evaluate params framework.cyclePeriod snap gui state).2, ?_, rfl⟩
    exact congrArg (· ++ [_]) (List.append_nil calls).symm

end GaitControl

end BoomWalker
