/-
Starting again after a request to be made safe.

Such a request disables the gait without a cycle, so the gait is not reset. The cycles that follow
go as after a disabled cycle into whose state the kept part of the old state was put back
(`commands_makeSafe`). They go as after the disabled cycle itself if the kept part is what a reset
makes it, or if no cycle reads it before one overwrites it (`commands_makeSafe_of_forgotten`).
-/
import BoomWalker.Proofs.Gait.Memory

namespace BoomWalker

variable {α : Type}

/-- Does no cycle of a list read what enabling keeps before one overwrites it? -/
def Gait.Memory.unread {g : Gait α} (m : g.Memory) : List (Snapshot α × g.Input) → Bool
  | [] => true
  | i :: is =>
    match m.keptUse i.1 i.2 with
    | .keeps => m.unread is
    | .rewrites => true
    | .reads => false

namespace GaitControl

variable {g : Gait α}

/-- Enabled cycles with the given snapshots and operator's inputs. -/
def cycles (is : List (Snapshot α × g.Input)) : List (Event g) :=
  is.map fun i => .process ⟨i.1, i.2, true⟩

/-- The controller with the kept part of its gait's state put back to what it was. -/
def withKept (m : g.Memory) (c : GaitControl g) (k : m.Kept) : GaitControl g :=
  { c with gait := m.restore c.gait k }

theorem wake_withKept {m : g.Memory} (c : GaitControl g) (k : m.Kept) (snap : Snapshot α) :
    (c.withKept m k).wake snap = m.restore (c.wake snap) k := by
  unfold wake withKept
  split
  · rfl
  · exact m.onEnable_restore c.params snap c.gait k

variable [Scalar α]

/-- The commands that a run puts out. -/
def commands (c : GaitControl g) (es : List (Event g)) : List (Command α) :=
  (c.run es).2.map Prod.fst

theorem commands_cons (c : GaitControl g) (i : Snapshot α × g.Input)
    (is : List (Snapshot α × g.Input)) :
    c.commands (cycles (i :: is)) =
      (c.process ⟨i.1, i.2, true⟩).2.1 ::
        (c.process ⟨i.1, i.2, true⟩).1.commands (cycles is) := rfl

variable {m : g.Memory} {c d : GaitControl g}

theorem Alike.commands_eq (h : Alike m c d) (es : List (Event g)) :
    c.commands es = d.commands es := by
  have hshown := congrArg (List.map Prod.fst) (h.run es).2
  rw [List.map_map, List.map_map] at hshown
  exact hshown

/-! ## One cycle -/

/-- The first cycle after a request to be made safe. -/
theorem process_makeSafe (c : GaitControl g) (snap : Snapshot α) (gui gui' : g.Input) :
    let d := (c.process ⟨snap, gui', false⟩).1.withKept m (m.kept c.gait)
    Alike m (c.makeSafe.process ⟨snap, gui, true⟩).1 (d.process ⟨snap, gui, true⟩).1 ∧
      (c.makeSafe.process ⟨snap, gui, true⟩).2.1 = (d.process ⟨snap, gui, true⟩).2.1 := by
  intro d
  obtain ⟨halike, hshown⟩ := alike_of_evaluate (m := m) (c := c.makeSafe) (d := d) rfl rfl rfl
    snap gui (m.evaluate_onEnable c.params c.framework.cyclePeriod snap gui c.gait)
  exact ⟨halike, (Prod.ext_iff.mp hshown).1⟩

/-- A cycle that overwrites the kept part unread. -/
theorem process_rewrites (c : GaitControl g) (k : m.Kept) (snap : Snapshot α) (gui : g.Input)
    (huse : m.keptUse snap gui = .rewrites) :
    Alike m ((c.withKept m k).process ⟨snap, gui, true⟩).1 (c.process ⟨snap, gui, true⟩).1 ∧
      ((c.withKept m k).process ⟨snap, gui, true⟩).2.1 = (c.process ⟨snap, gui, true⟩).2.1 := by
  have hevaluate :=
    m.evaluate_rewrites c.params c.framework.cyclePeriod snap gui (c.wake snap) k huse
  rw [← wake_withKept] at hevaluate
  obtain ⟨halike, hshown⟩ := alike_of_evaluate (m := m) (c := c.withKept m k) (d := c)
    rfl rfl rfl snap gui hevaluate
  exact ⟨halike, (Prod.ext_iff.mp hshown).1⟩

/-- A cycle that neither reads nor changes the kept part. -/
theorem process_keeps (c : GaitControl g) (k : m.Kept) (snap : Snapshot α) (gui : g.Input)
    (huse : m.keptUse snap gui = .keeps) :
    Alike m ((c.withKept m k).process ⟨snap, gui, true⟩).1
        ((c.process ⟨snap, gui, true⟩).1.withKept m k) ∧
      ((c.withKept m k).process ⟨snap, gui, true⟩).2.1 = (c.process ⟨snap, gui, true⟩).2.1 := by
  have hevaluate := m.evaluate_keeps c.params c.framework.cyclePeriod snap gui (c.wake snap) k huse
  rw [← wake_withKept] at hevaluate
  obtain ⟨hgait, hcommand⟩ := Prod.ext_iff.mp hevaluate
  simp only [Prod.map_fst, Prod.map_snd, id] at hgait hcommand
  rw [process_enabled, process_enabled]
  refine ⟨⟨rfl, rfl, rfl, rfl, hgait⟩, ?_⟩
  exact congrArg (fun answer : Command α =>
    if c.framework.rampFactor c.streak < 1 then answer.scale (c.framework.rampFactor c.streak)
    else answer) hcommand

/-! ## Runs -/

/-- Being made safe is a disabled cycle that forgets to reset what enabling keeps. -/
theorem commands_makeSafe (m : g.Memory) (c : GaitControl g) (snap : Snapshot α)
    (gui gui' : g.Input) (is : List (Snapshot α × g.Input)) :
    c.makeSafe.commands (cycles ((snap, gui) :: is)) =
      ((c.process ⟨snap, gui', false⟩).1.withKept m (m.kept c.gait)).commands
        (cycles ((snap, gui) :: is)) := by
  obtain ⟨halike, hcommand⟩ := process_makeSafe (m := m) c snap gui gui'
  rw [commands_cons, commands_cons, hcommand, halike.commands_eq]

/-- What is overwritten before it is read may have been anything. -/
theorem commands_withKept (c : GaitControl g) (k : m.Kept) (is : List (Snapshot α × g.Input))
    (hunread : m.unread is = true) :
    (c.withKept m k).commands (cycles is) = c.commands (cycles is) := by
  induction is generalizing c with
  | nil => rfl
  | cons i is ih =>
    rw [commands_cons, commands_cons]
    unfold Gait.Memory.unread at hunread
    cases huse : m.keptUse i.1 i.2 with
    -- Only the first case goes on with two different states.
    | keeps =>
      rw [huse] at hunread
      obtain ⟨halike, hcommand⟩ := process_keeps c k i.1 i.2 huse
      rw [hcommand, halike.commands_eq, ih _ hunread]
    | rewrites =>
      obtain ⟨halike, hcommand⟩ := process_rewrites c k i.1 i.2 huse
      rw [hcommand, halike.commands_eq]
    | reads =>
      rw [huse] at hunread
      cases hunread

theorem commands_makeSafe_of_forgotten (m : g.Memory) (c : GaitControl g) (snap : Snapshot α)
    (gui gui' : g.Input) (is : List (Snapshot α × g.Input))
    (h : m.kept c.gait = m.kept (g.reset c.params snap c.gait) ∨
      m.unread ((snap, gui) :: is) = true) :
    c.makeSafe.commands (cycles ((snap, gui) :: is)) =
      (c.process ⟨snap, gui', false⟩).1.commands (cycles ((snap, gui) :: is)) := by
  rw [commands_makeSafe m c snap gui gui']
  obtain hkept | hunread := h
  · have hsame : (c.process ⟨snap, gui', false⟩).1.withKept m (m.kept c.gait) =
        (c.process ⟨snap, gui', false⟩).1 := by
      rw [process_disabled, hkept]
      exact congrArg (fun s => (⟨c.framework, c.params, s, false, 0, c.numCycles + 1⟩ :
        GaitControl g)) (m.restore_kept _)
    rw [hsame]
  · exact commands_withKept _ _ _ hunread

/-- Does the gait start again after a request to be made safe as after a disabled cycle, whatever it
did before and whatever comes next? -/
def Restarts (g : Gait α) : Prop :=
  ∀ (f : Framework α) (p : g.Params) (c₀ : GaitControl g), GaitControl.new g f p = .ok c₀ →
    ∀ (past : List (Event g)) (snap : Snapshot α) (gui gui' : g.Input)
      (is : List (Snapshot α × g.Input)),
      (c₀.run past).1.makeSafe.commands (cycles ((snap, gui) :: is)) =
        ((c₀.run past).1.process ⟨snap, gui', false⟩).1.commands (cycles ((snap, gui) :: is))

end GaitControl

end BoomWalker
