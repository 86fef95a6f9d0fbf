/-
The integers of reports.

A reader of telemetry takes integers of 64 bits. Those that a gait reports count events of its
cycles: each grows by at most one in an evaluation and is left alone by everything else, for every
gait (`GaitName.counts`). So after a number of cycles no report holds a larger integer than that
number, and the control loop keeps it so (`Supervisor.Reports.cycle`).
-/
import BoomWalker.Gait.Catalogue
import BoomWalker.Proofs.Gait.CanonWalk.Cycle
import BoomWalker.Proofs.Gait.SlipWalk.Events
import BoomWalker.Proofs.Json.Values
import BoomWalker.Proofs.Supervisor.Overruns
import BoomWalker.Proofs.Supervisor.Runs

namespace BoomWalker

open Json

/-! ## Gaits -/

namespace GaitForm

variable {g : Gait Float} {f : GaitForm g} {k : Nat}

/-- In a state of the gait, no integer in its report exceeds the bound. -/
def Within (f : GaitForm g) (k : Nat) (s : g.State) : Prop := Fits k 2 (f.reportToJson (g.report s))

theorem Within.mono {s : g.State} (h : f.Within k s) {k' : Nat} (hk : k ≤ k') : f.Within k' s :=
  Fits.mono h hk le_rfl

/-- The integers in the reports of a gait start from zero and grow by at most one in an
evaluation. -/
structure Counts (f : GaitForm g) : Prop where
  initial : f.Within 0 g.initial
  configure (k : Nat) (p : g.Params) (s : g.State) : f.Within k s → f.Within k (g.configure p s)
  reset (k : Nat) (p : g.Params) (snap : Snapshot Float) (s : g.State) :
    f.Within k s → f.Within k (g.reset p snap s)
  onEnable (k : Nat) (p : g.Params) (snap : Snapshot Float) (s : g.State) :
    f.Within k s → f.Within k (g.onEnable p snap s)
  evaluate (k : Nat) (p : g.Params) (period : Float) (snap : Snapshot Float) (i : g.Input)
    (s : g.State) : f.Within k s → f.Within (k + 1) (g.evaluate p period snap i s).1

/-- It is enough that one count bounds the integers of a report, if only an evaluation changes it. -/
theorem Counts.of_count (count : g.State → Nat) (hwithin : ∀ k s, f.Within k s ↔ count s ≤ k)
    (hinitial : count g.initial = 0) (hconfigure : ∀ p s, count (g.configure p s) = count s)
    (hreset : ∀ p snap s, count (g.reset p snap s) = count s)
    (honEnable : ∀ p snap s, count (g.onEnable p snap s) = count s)
    (hevaluate : ∀ p period snap i s, count (g.evaluate p period snap i s).1 ≤ count s + 1) :
    f.Counts where
  initial := by rw [hwithin, hinitial]
  configure k p s h := by
    rw [hwithin, hconfigure]
    exact (hwithin k s).mp h
  reset k p snap s h := by
    rw [hwithin, hreset]
    exact (hwithin k s).mp h
  onEnable k p snap s h := by
    rw [hwithin, honEnable]
    exact (hwithin k s).mp h
  evaluate k p period snap i s h := by
    have hcount := (hwithin k s).mp h
    have hnext := hevaluate p period snap i s
    rw [hwithin]
    omega

theorem fits_status {s : GaitStatus g} {room : Nat} (h : Fits k room (f.reportToJson s.gait)) :
    Fits k (room + 1) (f.statusToJson s) := by
  refine .obj ?_
  simp only [List.forall_mem_cons]
  exact ⟨.bool _, .real _, h, List.forall_mem_nil _⟩

end GaitForm

/-! ## The gaits -/

namespace SlipWalk

theorem within_iff {k : Nat} {s : State Float} :
    form.Within k s ↔ s.numTransitions ≤ k ∧ s.numIgnored ≤ k := by
  have hexit : Fits k 1 (exitToJson s.exit) :=
    fits_obj_iff.mpr (List.forall_mem_map.mpr fun f _ => fits_real f.2)
  show Fits k (1 + 1) (reportToJson (report s)) ↔ _
  simp [reportToJson, report, hexit]

/-- A cycle ends at most one phase, and ignores at most one touchdown. -/
theorem Follows.counts_le {p : Params Float} {i : Input Float} {snap : Snapshot Float}
    {s s' : State Float} (h : Follows p i snap s s') :
    s'.numTransitions ≤ s.numTransitions + 1 ∧ s'.numIgnored ≤ s.numIgnored + 1 := by
  by_cases hwalking : i.mainController = 1
  · by_cases haccepts : s.phase.Accepts p i snap
    · obtain ⟨-, -, htransitions, hignored⟩ := h.accepted hwalking haccepts
      omega
    · obtain ⟨-, -, htransitions, hignored⟩ := h.held hwalking haccepts
      split at hignored <;> omega
  · by_cases hstanding : i.mainController = 0
    · obtain ⟨-, -, htransitions, hignored⟩ := h.standing hstanding
      omega
    · obtain ⟨-, -, htransitions, hignored⟩ := h.shutdown hstanding hwalking
      omega

theorem counts : form.Counts := by
  refine .of_count (fun s => max s.numTransitions s.numIgnored)
    (fun _ _ => within_iff.trans max_le_iff.symm) rfl (fun _ _ => rfl) (fun _ _ _ => rfl)
    (fun _ _ _ => rfl) ?_
  intro p period snap i s
  obtain ⟨htransitions, hignored⟩ := (evaluate_follows p period snap i s).counts_le
  have hnext : max (evaluate p period snap i s).1.numTransitions
      (evaluate p period snap i s).1.numIgnored ≤ max s.numTransitions s.numIgnored + 1 := by
    omega
  exact hnext

end SlipWalk

namespace CanonWalk

theorem within_iff {k : Nat} {s : State Float} : form.Within k s ↔ s.numSteps ≤ k := by
  show Fits k (1 + 1) (reportToJson ⟨s.mode, s.stance, s.tau, s.dtau, s.numSteps⟩) ↔ _
  simp [reportToJson]

theorem numSteps_evaluate_le (p : Params Float) (period : Float) (snap : Snapshot Float)
    (i : Input Float) (s : State Float) :
    (evaluate p period snap i s).1.numSteps ≤ s.numSteps + 1 := by
  have hafter := congrArg Prod.snd (evaluate_stance p period snap i s)
  simp only at hafter
  rw [hafter]
  cases Mode.ofSelector i.mainController with
  | standing => exact Nat.le_succ _
  | stopping => exact Nat.le_succ _
  | walking =>
    simp only
    split
    · exact le_rfl
    · exact Nat.le_succ _

theorem counts : form.Counts :=
  .of_count State.numSteps (fun _ _ => within_iff) rfl (fun _ _ => rfl) (fun _ _ _ => rfl)
    (fun _ _ _ => rfl) numSteps_evaluate_le

end CanonWalk

namespace LegHop

theorem within_iff {k : Nat} {s : State Float} : form.Within k s ↔ s.numTouchdowns ≤ k := by
  show Fits k (1 + 1) (reportToJson
    ⟨s.phase, s.reportedForce.1, s.reportedForce.2, s.reportedR, s.numTouchdowns⟩) ↔ _
  simp [reportToJson]

theorem numTouchdowns_evaluate_le (p : Params Float) (period : Float) (snap : Snapshot Float)
    (i : Input Float) (s : State Float) :
    (evaluate p period snap i s).1.numTouchdowns ≤ s.numTouchdowns + 1 := by
  simp only [evaluate]
  split <;> omega

theorem counts : form.Counts :=
  .of_count State.numTouchdowns (fun _ _ => within_iff) rfl (fun _ _ => rfl) (fun _ _ _ => rfl)
    (fun _ _ _ => rfl) numTouchdowns_evaluate_le

end LegHop

/-- The other gaits report no integers. -/
theorem ConstForce.within (k : Nat) (s : ConstForce.State Float) : ConstForce.form.Within k s := by
  show Fits k (1 + 1) (.obj [("l_leg", LegCurrents.toJson s.output.legs.left)])
  simp [LegCurrents.toJson]

theorem SinWave.within (k : Nat) (s : SinWave.State Float) : SinWave.form.Within k s := by
  show Fits k (1 + 1) (SinWave.reportToJson s.report)
  simp [SinWave.reportToJson]

theorem GaitForm.counts_of_within {g : Gait Float} {f : GaitForm g}
    (h : ∀ k s, f.Within k s) : f.Counts :=
  .of_count (fun _ => 0) (fun k s => iff_of_true (h k s) (Nat.zero_le k)) rfl (fun _ _ => rfl)
    (fun _ _ _ => rfl) (fun _ _ _ => rfl) fun _ _ _ _ _ => Nat.zero_le _

theorem GaitName.counts (n : GaitName) : n.form.Counts := by
  cases n with
  | slipWalk => exact SlipWalk.counts
  | canonWalk => exact CanonWalk.counts
  | legHop => exact LegHop.counts
  | constForce => exact GaitForm.counts_of_within ConstForce.within
  | sinWave => exact GaitForm.counts_of_within SinWave.within

/-! ## The control loop -/

variable {g : Gait Float} {f : GaitForm g}

namespace GaitForm.Counts

theorem created (h : f.Counts) {c : GaitControl g} (hc : c.Created) : f.Within 0 c.gait := by
  obtain hgait | hgait := hc.gait_eq
  · rw [hgait]
    exact h.initial
  · rw [hgait]
    exact h.configure _ _ _ h.initial

theorem process (h : f.Counts) {k : Nat} {c : GaitControl g} (hc : f.Within k c.gait)
    (i : GaitInput g) : f.Within (k + 1) (c.process i).1.gait := by
  obtain ⟨snap, gui, enabled⟩ := i
  cases enabled with
  | false =>
    rw [GaitControl.process_disabled]
    exact (h.reset _ _ _ _ hc).mono (Nat.le_succ k)
  | true =>
    have hwake : f.Within k (c.wake snap) := by
      unfold GaitControl.wake
      split
      · exact hc
      · exact h.onEnable _ _ _ _ hc
    rw [GaitControl.gait_process_enabled]
    exact h.evaluate _ _ _ _ _ _ hwake

end GaitForm.Counts

namespace Supervisor

/-- A supervisor has completed `n` cycles, and no integer that its gait reports exceeds `k`. -/
structure Reports (f : GaitForm g) (n k : Nat) (s : Supervisor g) : Prop where
  numCycles : s.store.numCycles = n
  gait : f.Within k s.control.gait
  report : ∀ status ∈ s.store.report, Fits k 2 (f.reportToJson status.gait)

theorem reports_new (h : f.Counts) {control : GaitControl g} (hc : control.Created)
    (timeout : Nat) (rate : Float) : (Supervisor.new control timeout rate).Reports f 0 0 where
  numCycles := rfl
  gait := h.created hc
  report := by
    rintro status ⟨⟩

variable {n k : Nat} {s : Supervisor g}

theorem Reports.assess (h : s.Reports f n k) (raised : Bool) (c : SafeCause) :
    (s.assess raised c).Reports f n k := by
  cases raised with
  | true => exact ⟨h.numCycles, h.gait, h.report⟩
  | false => exact ⟨h.numCycles, h.gait, h.report⟩

theorem Reports.informed (h : s.Reports f n k)
    (read : String → Option (OperatorPacket g.Input)) (i : CycleInput Float) :
    (s.informed read i).Reports f n k := by
  have hheard : (s.hear read i.time i.receipts).Reports f n k := by
    refine Reports.assess ?_ _ _
    exact ⟨h.numCycles, h.gait, h.report⟩
  refine Reports.assess ?_ _ _
  cases i.state with
  | none => exact ⟨hheard.numCycles, hheard.gait, hheard.report⟩
  | some snap => exact ⟨hheard.numCycles, hheard.gait, hheard.report⟩

/-- The gait answers at most once, and what it reports then is its state after that. -/
theorem Reports.decide (hf : f.Counts) (h : s.Reports f n k) : s.decide.1.Reports f n (k + 1) := by
  let control := if s.store.safety.safe then s.control.makeSafe else s.control
  have hgait : f.Within k control.gait := by
    show f.Within k (if s.store.safety.safe then s.control.makeSafe else s.control).gait
    split
    · exact h.gait
    · exact h.gait
  unfold Supervisor.decide
  simp only
  split
  · refine ⟨h.numCycles, hf.process hgait _, ?_⟩
    rintro status ⟨⟩
    rw [GaitControl.report_process]
    exact hf.process hgait _
  · exact ⟨h.numCycles, hgait.mono (Nat.le_succ k),
      fun status hs => (h.report status hs).mono (Nat.le_succ k) le_rfl⟩

theorem Reports.settle (limits : CycleLimits) (h : s.Reports f n k) (elapsed : Nat) :
    (s.settle limits elapsed).1.Reports f (n + 1) k := by
  have hnum : s.store.numCycles + 1 = n + 1 := congrArg (· + 1) h.numCycles
  unfold Supervisor.settle judge
  by_cases hperiod : elapsed ≤ limits.period
  · simp only [if_pos hperiod]
    exact ⟨hnum, h.gait, h.report⟩
  · simp only [if_neg hperiod]
    split
    · exact ⟨hnum, h.gait, h.report⟩
    · exact ⟨hnum, h.gait, h.report⟩

variable (limits : CycleLimits) (read : String → Option (OperatorPacket g.Input))

theorem Reports.cycle (hf : f.Counts) (h : s.Reports f n k) (i : CycleInput Float) :
    (s.cycle limits read i).1.Reports f (n + 1) (k + 1) := by
  have hdecided := (h.informed read i).decide hf
  have hworked : (s.work read i).1.Reports f n (k + 1) :=
    ⟨hdecided.numCycles, hdecided.gait, hdecided.report⟩
  exact hworked.settle limits i.elapsed

theorem eq_store_of_publish {store : Store Float (GaitStatus g)} (h : s.publish.2 = some store) :
    store = s.store := by
  unfold publish at h
  simp only at h
  split at h
  · exact (Option.some.inj h).symm
  · cases h

/-- What a cycle publishes is the store once the command was chosen. -/
theorem Reports.published (hf : f.Counts) (h : s.Reports f n k) {i : CycleInput Float}
    {store : Store Float (GaitStatus g)}
    (hstore : (s.cycle limits read i).2.published = some store) :
    store.numCycles = n ∧ ∀ status ∈ store.report, Fits (k + 1) 2 (f.reportToJson status.gait) := by
  have hdecided := (h.informed read i).decide hf
  have hdue : (s.informed read i).decide.1.publish.2 = some store := hstore
  rw [eq_store_of_publish hdue]
  exact ⟨hdecided.numCycles, hdecided.report⟩

end Supervisor

end BoomWalker
