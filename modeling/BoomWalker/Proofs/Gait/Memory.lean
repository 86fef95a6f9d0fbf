/-
What a gait remembers.

`Gait.Memory` divides the state of a gait. Its live part is what can reach the motors; the remainder
is telemetry. A disabled cycle sets all of the live part. Enabling sets all of it but what is kept,
and each later cycle leaves the kept part as it is, overwrites it unread, or reads it.

The laws of a division are about single operations of the gait. `Alike.run` carries them to whole
runs of two controllers.
-/
import BoomWalker.Proofs.Gait.Runs

namespace BoomWalker

variable {α : Type}

/-- What an enabled cycle does with the part of the state that enabling keeps. -/
inductive KeptUse where
  /-- Neither reads nor changes it. -/
  | keeps
  /-- Overwrites it unread. -/
  | rewrites
  /-- May depend on it. -/
  | reads
deriving DecidableEq, Repr

/-- A division of the state of a gait. -/
structure Gait.Memory (g : Gait α) where
  /-- The state with its telemetry blanked. -/
  live : g.State → g.State
  /-- Where the gait is in its own course: its mode, phase and stance leg, as far as it has them. -/
  Posture : Type
  posture : g.Report → Posture
  /-- The live part that enabling leaves as it was. -/
  Kept : Type
  kept : g.State → Kept
  restore : g.State → Kept → g.State
  keptUse : Snapshot α → g.Input → KeptUse
  posture_live (s : g.State) : posture (g.report (live s)) = posture (g.report s)
  reset_live (p : g.Params) (snap : Snapshot α) (s t : g.State) :
    live (g.reset p snap s) = live (g.reset p snap t)
  onEnable_live (p : g.Params) (snap : Snapshot α) (s : g.State) :
    live (g.onEnable p snap (live s)) = live (g.onEnable p snap s)
  evaluate_live (p : g.Params) (period : α) (snap : Snapshot α) (gui : g.Input) (s : g.State) :
    (g.evaluate p period snap gui (live s)).map live id =
      (g.evaluate p period snap gui s).map live id
  restore_kept (s : g.State) : restore s (kept s) = s
  onEnable_restore (p : g.Params) (snap : Snapshot α) (s : g.State) (k : Kept) :
    g.onEnable p snap (restore s k) = restore (g.onEnable p snap s) k
  /-- Enabling seeds everything else, so that it might as well follow a reset. -/
  evaluate_onEnable (p : g.Params) (period : α) (snap : Snapshot α) (gui : g.Input)
    (s : g.State) :
    (g.evaluate p period snap gui (g.onEnable p snap s)).map live id =
      (g.evaluate p period snap gui
        (g.onEnable p snap (restore (g.reset p snap s) (kept s)))).map live id
  evaluate_keeps (p : g.Params) (period : α) (snap : Snapshot α) (gui : g.Input) (s : g.State)
    (k : Kept) (huse : keptUse snap gui = .keeps) :
    (g.evaluate p period snap gui (restore s k)).map live id =
      (g.evaluate p period snap gui s).map (fun t => live (restore t k)) id
  evaluate_rewrites (p : g.Params) (period : α) (snap : Snapshot α) (gui : g.Input)
    (s : g.State) (k : Kept) (huse : keptUse snap gui = .rewrites) :
    (g.evaluate p period snap gui (restore s k)).map live id =
      (g.evaluate p period snap gui s).map live id

namespace Gait.Memory

variable {g : Gait α} (m : g.Memory)

/-- The live part of the state decides the next command and the next live part. -/
theorem evaluate_eq (p : g.Params) (period : α) (snap : Snapshot α) (gui : g.Input)
    {s t : g.State} (h : m.live s = m.live t) :
    (g.evaluate p period snap gui s).map m.live id =
      (g.evaluate p period snap gui t).map m.live id := by
  rw [← m.evaluate_live, h, m.evaluate_live]

theorem onEnable_eq (p : g.Params) (snap : Snapshot α) {s t : g.State}
    (h : m.live s = m.live t) : m.live (g.onEnable p snap s) = m.live (g.onEnable p snap t) := by
  rw [← m.onEnable_live, h, m.onEnable_live]

theorem posture_eq {s t : g.State} (h : m.live s = m.live t) :
    m.posture (g.report s) = m.posture (g.report t) := by
  rw [← m.posture_live, h, m.posture_live]

/-- What one cycle puts out, without telemetry: the command, whether the cycle was enabled, the
factor on the currents, and the posture. -/
def shown (o : Command α × GaitStatus g) : Command α × Bool × α × m.Posture :=
  (o.1, o.2.enabled, o.2.rampFactor, m.posture o.2.gait)

end Gait.Memory

namespace GaitControl

variable {g : Gait α}

/-! ## Two controllers that act alike -/

/-- Controllers that differ in telemetry only. -/
structure Alike (m : g.Memory) (c d : GaitControl g) : Prop where
  framework : c.framework = d.framework
  params : c.params = d.params
  enabled : c.enabled = d.enabled
  enabledCycles : c.enabledCycles = d.enabledCycles
  gait : m.live c.gait = m.live d.gait

variable {m : g.Memory} {c d : GaitControl g}

theorem Alike.wake (h : Alike m c d) (snap : Snapshot α) :
    m.live (c.wake snap) = m.live (d.wake snap) := by
  unfold GaitControl.wake
  rw [h.enabled, h.params]
  split
  · exact h.gait
  · exact m.onEnable_eq d.params snap h.gait

theorem Alike.streak (h : Alike m c d) : c.streak = d.streak := by
  unfold GaitControl.streak
  rw [h.enabled, h.enabledCycles]

variable [Scalar α]

/-- A disabled cycle makes any two controllers with the same parameters alike. -/
theorem alike_process_disabled (hframework : c.framework = d.framework)
    (hparams : c.params = d.params) (snap : Snapshot α) (gui gui' : g.Input) :
    Alike m (c.process ⟨snap, gui, false⟩).1 (d.process ⟨snap, gui', false⟩).1 := by
  rw [process_disabled, process_disabled]
  refine ⟨hframework, hparams, rfl, rfl, ?_⟩
  show m.live (g.reset c.params snap c.gait) = m.live (g.reset d.params snap d.gait)
  rw [hparams]
  exact m.reset_live d.params snap c.gait d.gait

/-- Controllers that evaluate their gaits to the same end show the same, and are alike from there
on. -/
theorem alike_of_evaluate (hframework : c.framework = d.framework) (hparams : c.params = d.params)
    (hstreak : c.streak = d.streak) (snap : Snapshot α) (gui : g.Input)
    (hevaluate :
      (g.evaluate d.params d.framework.cyclePeriod snap gui (c.wake snap)).map m.live id =
        (g.evaluate d.params d.framework.cyclePeriod snap gui (d.wake snap)).map m.live id) :
    Alike m (c.process ⟨snap, gui, true⟩).1 (d.process ⟨snap, gui, true⟩).1 ∧
      m.shown (c.process ⟨snap, gui, true⟩).2 = m.shown (d.process ⟨snap, gui, true⟩).2 := by
  obtain ⟨hgait, hcommand⟩ := Prod.ext_iff.mp hevaluate
  simp only [Prod.map_fst, Prod.map_snd, id] at hgait hcommand
  rw [process_enabled, process_enabled, hframework, hparams, hstreak]
  refine ⟨⟨rfl, rfl, rfl, rfl, hgait⟩, ?_⟩
  simp only [Gait.Memory.shown, hcommand, m.posture_eq hgait]

theorem Alike.process_enabled (h : Alike m c d) (snap : Snapshot α) (gui : g.Input) :
    Alike m (c.process ⟨snap, gui, true⟩).1 (d.process ⟨snap, gui, true⟩).1 ∧
      m.shown (c.process ⟨snap, gui, true⟩).2 = m.shown (d.process ⟨snap, gui, true⟩).2 :=
  alike_of_evaluate h.framework h.params h.streak snap gui
    (m.evaluate_eq d.params d.framework.cyclePeriod snap gui (h.wake snap))

theorem Alike.step (h : Alike m c d) (e : Event g) :
    Alike m (c.step e).1 (d.step e).1 ∧ (c.step e).2.map m.shown = (d.step e).2.map m.shown := by
  cases e with
  | makeSafe => exact ⟨⟨h.framework, h.params, rfl, rfl, h.gait⟩, rfl⟩
  | process i =>
    obtain ⟨snap, gui, enabled⟩ := i
    cases enabled with
    | true =>
      obtain ⟨halike, hshown⟩ := h.process_enabled snap gui
      exact ⟨halike, congrArg some hshown⟩
    | false =>
      have halike : Alike m (c.process ⟨snap, gui, false⟩).1 (d.process ⟨snap, gui, false⟩).1 :=
        alike_process_disabled h.framework h.params snap gui gui
      -- The command is safe either way; only the posture has to be compared.
      refine ⟨halike, congrArg some ?_⟩
      rw [process_disabled, process_disabled]
      exact congrArg (fun x => (Command.safe, false, 0, x)) (m.posture_eq halike.gait)

/-- Controllers that are alike stay so, and put out the same. -/
theorem Alike.run (h : Alike m c d) (es : List (Event g)) :
    Alike m (c.run es).1 (d.run es).1 ∧ (c.run es).2.map m.shown = (d.run es).2.map m.shown := by
  induction es generalizing c d with
  | nil => exact ⟨h, rfl⟩
  | cons e es ih =>
    obtain ⟨hnext, hout⟩ := h.step e
    obtain ⟨hlast, houts⟩ := ih hnext
    refine ⟨hlast, ?_⟩
    show ((c.step e).2.toList ++ ((c.step e).1.run es).2).map m.shown =
      ((d.step e).2.toList ++ ((d.step e).1.run es).2).map m.shown
    rw [List.map_append, List.map_append, houts, ← Option.toList_map, ← Option.toList_map, hout]

end GaitControl

end BoomWalker
