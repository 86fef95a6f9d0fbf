/-
Runs of a gait's controller.

A controller is driven by events: cycles, enabled or disabled, and the request to be made safe. What
it does in an enabled cycle depends on its past only through the gait's own state and through the
length of the current streak, the enabled cycles since the gait was last disabled. `Steady` says so
for every run, and `process_enabled` and `process_disabled` give the whole of one cycle.
-/
import BoomWalker.Gait.Control
import Mathlib.Data.List.DropRight

namespace BoomWalker.GaitControl

variable {α : Type} {g : Gait α}

/-! ## Events -/

/-- Is the event an enabled cycle? Every other event disables the gait. -/
def Event.enables : Event g → Bool
  | .process i => i.enabled
  | .makeSafe => false

/-- The enabled cycles at the end of a list of events. -/
def enabledStreak (es : List (Event g)) : Nat := (es.rtakeWhile Event.enables).length

theorem enabledStreak_concat (es : List (Event g)) (e : Event g) :
    enabledStreak (es ++ [e]) = if e.enables then enabledStreak es + 1 else 0 := by
  unfold enabledStreak
  rw [List.rtakeWhile_concat]
  split
  · rw [List.length_append, List.length_singleton]
  · rfl

/-! ## One cycle -/

/-- The state in which the gait is evaluated, should the coming cycle be enabled. -/
def wake (c : GaitControl g) (snap : Snapshot α) : g.State :=
  if c.enabled then c.gait else g.onEnable c.params snap c.gait

/-- Enabled cycles before the coming one since the gait was enabled. -/
def streak (c : GaitControl g) : Nat := if c.enabled then c.enabledCycles else 0

/-- What a controller knows of the events since it was created. -/
structure Steady (es : List (Event g)) (c : GaitControl g) : Prop where
  enabledCycles : c.enabledCycles = enabledStreak es
  enabled : c.enabled = decide (0 < enabledStreak es)

theorem Steady.streak {c : GaitControl g} {es : List (Event g)} (h : Steady es c) :
    c.streak = enabledStreak es := by
  unfold GaitControl.streak
  rw [h.enabled, h.enabledCycles]
  cases enabledStreak es with
  | zero => rfl
  | succ n => rfl

variable [Scalar α]

theorem process_disabled (c : GaitControl g) (snap : Snapshot α) (gui : g.Input) :
    c.process ⟨snap, gui, false⟩ =
      ({ c with
          numCycles := c.numCycles + 1
          gait := g.reset c.params snap c.gait, enabled := false, enabledCycles := 0 },
        .safe, ⟨false, 0, g.report (g.reset c.params snap c.gait)⟩) := rfl

theorem process_enabled (c : GaitControl g) (snap : Snapshot α) (gui : g.Input) :
    c.process ⟨snap, gui, true⟩ =
      let answer := g.evaluate c.params c.framework.cyclePeriod snap gui (c.wake snap)
      let ramp := c.framework.rampFactor c.streak
      ({ c with
          numCycles := c.numCycles + 1
          gait := answer.1, enabled := true, enabledCycles := c.streak + 1 },
        if ramp < 1 then answer.2.scale ramp else answer.2,
        ⟨true, ramp, g.report answer.1⟩) := by
  obtain ⟨framework, params, gait, enabled, enabledCycles, numCycles⟩ := c
  cases enabled <;> rfl

/-- An enabled cycle evaluates the gait once. -/
theorem gait_process_enabled (c : GaitControl g) (snap : Snapshot α) (gui : g.Input) :
    (c.process ⟨snap, gui, true⟩).1.gait =
      (g.evaluate c.params c.framework.cyclePeriod snap gui (c.wake snap)).1 := by
  rw [process_enabled]

/-- Every cycle reports on the state in which it leaves the gait. -/
theorem report_process (c : GaitControl g) (i : GaitInput g) :
    (c.process i).2.2.gait = g.report (c.process i).1.gait := by
  obtain ⟨snap, gui, enabled⟩ := i
  cases enabled with
  | false => rw [process_disabled]
  | true => rw [process_enabled]

/-- An enabled cycle puts out what the gait evaluates to, ramped in. -/
theorem process_ramped (c : GaitControl g) (snap : Snapshot α) (gui : g.Input) :
    let output := (g.evaluate c.params c.framework.cyclePeriod snap gui (c.wake snap)).2
    let ramp := (c.process ⟨snap, gui, true⟩).2.2.rampFactor
    (c.process ⟨snap, gui, true⟩).2.1 = if ramp < 1 then output.scale ramp else output := by
  rw [process_enabled]

/-- A command under the factor of the startup ramp, which scales the currents only below one. -/
def ramped (factor : α) (out : Command α) : Command α :=
  if factor < 1 then out.scale factor else out

/-- No event changes the parameters. -/
theorem step_fixed (c : GaitControl g) (e : Event g) :
    (c.step e).1.framework = c.framework ∧ (c.step e).1.params = c.params := by
  cases e with
  | makeSafe => exact ⟨rfl, rfl⟩
  | process i =>
    obtain ⟨framework, params, gait, on, enabledCycles, numCycles⟩ := c
    obtain ⟨snap, gui, enabled⟩ := i
    cases enabled with
    | false => exact ⟨rfl, rfl⟩
    | true =>
      cases on with
      | false => exact ⟨rfl, rfl⟩
      | true => exact ⟨rfl, rfl⟩

/-! ## Runs -/

theorem run_append (c : GaitControl g) (es fs : List (Event g)) :
    c.run (es ++ fs) =
      (((c.run es).1.run fs).1, (c.run es).2 ++ ((c.run es).1.run fs).2) := by
  induction es generalizing c with
  | nil => rfl
  | cons e es ih =>
    simp only [List.cons_append, run, ih]
    rw [List.append_assoc]

theorem run_concat (c : GaitControl g) (es : List (Event g)) (e : Event g) :
    (c.run (es ++ [e])).1 = ((c.run es).1.step e).1 := by
  rw [run_append]
  rfl

theorem run_fixed (c : GaitControl g) (es : List (Event g)) :
    (c.run es).1.framework = c.framework ∧ (c.run es).1.params = c.params := by
  induction es using List.reverseRecOn with
  | nil => exact ⟨rfl, rfl⟩
  | append_singleton es e ih =>
    rw [run_concat]
    obtain ⟨hframework, hparams⟩ := step_fixed (c.run es).1 e
    exact ⟨hframework.trans ih.1, hparams.trans ih.2⟩

theorem check_of_new {f : Framework α} {p : g.Params} {c₀ : GaitControl g}
    (h : GaitControl.new g f p = .ok c₀) : f.check = .ok () := by
  unfold GaitControl.new at h
  cases hcheck : f.check with
  | error e =>
    rw [hcheck] at h
    cases h
  | ok _ => rfl

theorem eq_of_new {f : Framework α} {p : g.Params} {c₀ : GaitControl g}
    (h : GaitControl.new g f p = .ok c₀) :
    c₀ = ⟨f, p, g.configure p g.initial, false, 0, 0⟩ := by
  have hcheck := check_of_new h
  unfold GaitControl.new at h
  rw [hcheck] at h
  cases h
  rfl

theorem params_of_new {f : Framework α} {p : g.Params} {c₀ : GaitControl g}
    (h : GaitControl.new g f p = .ok c₀) (es : List (Event g)) : (c₀.run es).1.params = p := by
  rw [(c₀.run_fixed es).2, eq_of_new h]

/-- A controller as it is made: with checked parameters, or around a gait that was never given
any. -/
inductive Created : GaitControl g → Prop where
  | new {f : Framework α} {p : g.Params} {c₀ : GaitControl g}
      (h : GaitControl.new g f p = .ok c₀) : Created c₀
  | unconfigured : Created (.unconfigured g)

theorem Created.disabled {c₀ : GaitControl g} (h : c₀.Created) :
    c₀.enabled = false ∧ c₀.enabledCycles = 0 := by
  cases h with
  | new h =>
    rw [eq_of_new h]
    exact ⟨rfl, rfl⟩
  | unconfigured => exact ⟨rfl, rfl⟩

/-- What a controller makes of a gait before its first cycle. -/
theorem Created.gait_eq {c₀ : GaitControl g} (h : c₀.Created) :
    c₀.gait = g.initial ∨ c₀.gait = g.configure c₀.params g.initial := by
  cases h with
  | new h =>
    rw [eq_of_new h]
    exact Or.inr rfl
  | unconfigured => exact Or.inl rfl

theorem Steady.step {c : GaitControl g} {es : List (Event g)} (h : Steady es c) (e : Event g) :
    Steady (es ++ [e]) (c.step e).1 := by
  have hlen := enabledStreak_concat es e
  cases e with
  | makeSafe =>
    rw [Event.enables, if_neg Bool.false_ne_true] at hlen
    exact ⟨hlen.symm, by rw [hlen]; rfl⟩
  | process i =>
    obtain ⟨snap, gui, enabled⟩ := i
    cases enabled with
    | false =>
      rw [Event.enables, if_neg Bool.false_ne_true] at hlen
      exact ⟨hlen.symm, by rw [hlen]; rfl⟩
    | true =>
      rw [Event.enables, if_pos rfl] at hlen
      have hstep : (c.step (.process ⟨snap, gui, true⟩)).1 =
          (c.process ⟨snap, gui, true⟩).1 := rfl
      rw [hstep, process_enabled]
      refine ⟨?_, ?_⟩
      · rw [hlen, ← h.streak]
      · rw [hlen]
        exact (decide_eq_true (Nat.succ_pos _)).symm

/-- Every run of a controller that starts out disabled is steady. -/
theorem steady_run (c₀ : GaitControl g) (hoff : c₀.enabled = false)
    (hzero : c₀.enabledCycles = 0) (es : List (Event g)) : Steady es (c₀.run es).1 := by
  induction es using List.reverseRecOn with
  | nil => exact ⟨hzero, hoff⟩
  | append_singleton es e ih =>
    rw [run_concat]
    exact ih.step e

end BoomWalker.GaitControl
