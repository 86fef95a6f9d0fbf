/-
Overruns, and the safe mode that they cause.

Whether overruns have been raised is a matter of the lengths of the past cycles alone: `Raised` says
that more of them in a row than are tolerated were too long. `Tracks` says that a supervisor knows
the streak of overruns at the end of its past, and holds the rig safe because of overruns exactly if
they were raised. Every cycle keeps it so (`Tracks.cycle`), whatever else the cycle brings.
-/
import BoomWalker.Supervisor.Cycle
import Mathlib.Data.List.DropRight

namespace BoomWalker

/-! ## Safe mode -/

namespace Safety

/-- The rig is held safe exactly if there is a cause. -/
def Sound (s : Safety) : Prop := s.safe = s.cause.isSome

/-- Entering safe mode changes nothing, or holds the new cause. -/
theorem makeSafe_cases (s : Safety) (c : SafeCause) :
    (s.makeSafe c = s ∧ (c = .cycleOverrun → s.overrun = true)) ∨
      (s.makeSafe c = ⟨true, some c⟩ ∧ (s.safe = false ∨ c = .cycleOverrun)) := by
  unfold makeSafe
  split
  · next h =>
    refine Or.inr ⟨rfl, ?_⟩
    obtain hsafe | ⟨hc, -⟩ := h
    · exact Or.inl (Bool.of_not_eq_true hsafe)
    · exact Or.inr hc
  · next h =>
    refine Or.inl ⟨rfl, fun hc => ?_⟩
    by_contra hoverrun
    exact h (Or.inr ⟨hc, hoverrun⟩)

/-- Clearing a cause changes nothing, or turns safe mode off, which held overruns do not allow. -/
theorem makeUnsafe_cases (s : Safety) (c : SafeCause) :
    (s.makeUnsafe c).1 = s ∨ ((s.makeUnsafe c).1 = .off ∧ s.overrun = false) := by
  obtain ⟨safe, cause⟩ := s
  cases safe with
  | false => exact Or.inl rfl
  | true =>
    cases cause with
    | none => exact Or.inl rfl
    | some held =>
      cases held with
      | cycleOverrun => exact Or.inl rfl
      | guiLost =>
        cases c with
        | guiLost => exact Or.inr ⟨rfl, rfl⟩
        | cycleOverrun => exact Or.inl rfl
        | linkDown => exact Or.inl rfl
      | linkDown =>
        cases c with
        | guiLost => exact Or.inl rfl
        | cycleOverrun => exact Or.inl rfl
        | linkDown => exact Or.inr ⟨rfl, rfl⟩

theorem makeSafe_sound {s : Safety} (h : s.Sound) (c : SafeCause) : (s.makeSafe c).Sound := by
  obtain ⟨hsame, -⟩ | ⟨hheld, -⟩ := s.makeSafe_cases c
  · rw [hsame]
    exact h
  · rw [hheld]
    rfl

theorem makeUnsafe_sound {s : Safety} (h : s.Sound) (c : SafeCause) :
    (s.makeUnsafe c).1.Sound := by
  obtain hsame | ⟨hoff, -⟩ := s.makeUnsafe_cases c
  · rw [hsame]
    exact h
  · rw [hoff]
    rfl

/-- Overruns hold the rig safe. -/
theorem overrun_eq_false {s : Safety} (h : s.Sound) (hsafe : s.safe = false) :
    s.overrun = false := by
  obtain ⟨safe, cause⟩ := s
  cases cause with
  | none => rfl
  | some held =>
    rw [Sound, hsafe] at h
    cases h

/-- A cause other than overruns does not change whether overruns are held. -/
theorem makeSafe_overrun {s : Safety} (h : s.Sound) {c : SafeCause} (hc : c ≠ .cycleOverrun) :
    (s.makeSafe c).overrun = s.overrun := by
  obtain ⟨hsame, -⟩ | ⟨hheld, hwhy⟩ := s.makeSafe_cases c
  · rw [hsame]
  · rw [hheld, overrun_eq_false h (hwhy.resolve_right hc)]
    exact beq_eq_false_iff_ne.mpr fun heq => hc (Option.some.inj heq)

theorem makeUnsafe_overrun (s : Safety) (c : SafeCause) :
    (s.makeUnsafe c).1.overrun = s.overrun := by
  obtain hsame | ⟨hoff, hnone⟩ := s.makeUnsafe_cases c
  · rw [hsame]
  · rw [hoff, hnone]
    rfl

theorem makeSafe_cycleOverrun (s : Safety) : (s.makeSafe .cycleOverrun).overrun = true := by
  obtain ⟨hsame, hoverrun⟩ | ⟨hheld, -⟩ := s.makeSafe_cases .cycleOverrun
  · rw [hsame]
    exact hoverrun rfl
  · rw [hheld]
    rfl

end Safety

/-! ## Streaks of overruns -/

namespace CycleLimits

/-- Does a cycle of the given length overrun? -/
def overran (limits : CycleLimits) (elapsed : Nat) : Bool := limits.period < elapsed

/-- The overruns at the end of a list of lengths. -/
def overrunStreak (limits : CycleLimits) (past : List Nat) : Nat :=
  (past.rtakeWhile limits.overran).length

/-- Were there ever more overruns in a row than are tolerated? -/
def Raised (limits : CycleLimits) (past : List Nat) : Prop :=
  ∃ until', until' <+: past ∧ limits.maxOverruns < limits.overrunStreak until'

theorem overrunStreak_concat (limits : CycleLimits) (past : List Nat) (elapsed : Nat) :
    limits.overrunStreak (past ++ [elapsed]) =
      if limits.overran elapsed then limits.overrunStreak past + 1 else 0 := by
  unfold overrunStreak
  rw [List.rtakeWhile_concat]
  split
  · rw [List.length_append, List.length_singleton]
  · rfl

theorem not_raised_nil (limits : CycleLimits) : ¬ limits.Raised [] := by
  rintro ⟨past, hprefix, hstreak⟩
  rw [List.prefix_nil] at hprefix
  subst hprefix
  exact Nat.not_lt_zero _ hstreak

theorem raised_concat (limits : CycleLimits) (past : List Nat) (elapsed : Nat) :
    limits.Raised (past ++ [elapsed]) ↔
      limits.Raised past ∨ limits.maxOverruns < limits.overrunStreak (past ++ [elapsed]) := by
  constructor
  · rintro ⟨until', hprefix, hstreak⟩
    obtain rfl | hprefix := List.prefix_concat_iff.mp hprefix
    · exact Or.inr hstreak
    · exact Or.inl ⟨until', hprefix, hstreak⟩
  · rintro (⟨until', hprefix, hstreak⟩ | hstreak)
    · exact ⟨until', hprefix.trans (List.prefix_append past [elapsed]), hstreak⟩
    · exact ⟨past ++ [elapsed], List.prefix_refl _, hstreak⟩

end CycleLimits

/-! ## The supervisor -/

namespace Supervisor

variable {α : Type} {g : Gait α}

/-- The supervisor once it has heard the operator and taken in the state of the cycle. -/
def informed (read : String → Option (OperatorPacket g.Input)) (s : Supervisor g)
    (i : CycleInput α) : Supervisor g :=
  (s.hear read i.time i.receipts).observe i.state

/-- What a supervisor knows of the lengths of its past cycles. -/
structure Tracks (limits : CycleLimits) (past : List Nat) (s : Supervisor g) : Prop where
  sound : s.store.safety.Sound
  overruns : s.store.overruns = limits.overrunStreak past
  overrun : s.store.safety.overrun = true ↔ limits.Raised past

variable {limits : CycleLimits} {past : List Nat} {s : Supervisor g}

theorem Tracks.assess (h : Tracks limits past s) (raised : Bool) {c : SafeCause}
    (hc : c ≠ .cycleOverrun) : Tracks limits past (s.assess raised c) := by
  cases raised with
  | true =>
    have hoverrun : (s.assess true c).store.safety.overrun = s.store.safety.overrun :=
      Safety.makeSafe_overrun h.sound hc
    exact ⟨Safety.makeSafe_sound h.sound c, h.overruns, by rw [hoverrun]; exact h.overrun⟩
  | false =>
    have hoverrun : (s.assess false c).store.safety.overrun = s.store.safety.overrun :=
      Safety.makeUnsafe_overrun s.store.safety c
    exact ⟨Safety.makeUnsafe_sound h.sound c, h.overruns, by rw [hoverrun]; exact h.overrun⟩

theorem Tracks.hear (h : Tracks limits past s)
    (read : String → Option (OperatorPacket g.Input)) (time : α) (receipts : List Receipt) :
    Tracks limits past (s.hear read time receipts) := by
  refine Tracks.assess (c := .guiLost) ?_ _ SafeCause.noConfusion
  exact ⟨h.sound, h.overruns, h.overrun⟩

theorem Tracks.informed (h : Tracks limits past s)
    (read : String → Option (OperatorPacket g.Input)) (i : CycleInput α) :
    Tracks limits past (s.informed read i) := by
  have hheard := h.hear read i.time i.receipts
  -- The snapshot and the flags beside it are set first; neither is tracked.
  refine Tracks.assess (c := .linkDown) ?_ _ SafeCause.noConfusion
  cases i.state with
  | none => exact ⟨hheard.sound, hheard.overruns, hheard.overrun⟩
  | some snap => exact ⟨hheard.sound, hheard.overruns, hheard.overrun⟩

variable [Scalar α]

theorem tracks_new (limits : CycleLimits) (control : GaitControl g) (timeout : Nat) (rate : α) :
    Tracks limits [] (Supervisor.new control timeout rate) where
  sound := rfl
  overruns := rfl
  overrun := by
    constructor
    · intro hoverrun
      cases hoverrun
    · intro hraised
      exact absurd hraised limits.not_raised_nil

/-- The choice of the command changes neither safe mode nor the count of overruns. -/
theorem decide_safety (s : Supervisor g) :
    s.decide.1.store.safety = s.store.safety ∧ s.decide.1.store.overruns = s.store.overruns := by
  obtain ⟨⟨numCycles, time, safety, snapshot, fresh, link, command, report, overruns⟩,
    control, latch, timer⟩ := s
  cases fresh with
  | false => exact ⟨rfl, rfl⟩
  | true =>
    cases snapshot with
    | none => exact ⟨rfl, rfl⟩
    | some state => exact ⟨rfl, rfl⟩

theorem Tracks.decide (h : Tracks limits past s) : Tracks limits past s.decide.1 := by
  obtain ⟨hsafety, hoverruns⟩ := decide_safety s
  refine ⟨?_, ?_, ?_⟩
  · rw [hsafety]
    exact h.sound
  · rw [hoverruns]
    exact h.overruns
  · rw [hsafety]
    exact h.overrun

theorem Tracks.work (h : Tracks limits past s)
    (read : String → Option (OperatorPacket g.Input)) (i : CycleInput α) :
    Tracks limits past (s.work read i).1 := by
  have hdecided := (h.informed read i).decide
  exact ⟨hdecided.sound, hdecided.overruns, hdecided.overrun⟩

/-- The end of a cycle counts its overrun, and raises overruns when there are too many. -/
theorem Tracks.settle (h : Tracks limits past s) (elapsed : Nat) :
    Tracks limits (past ++ [elapsed]) (s.settle limits elapsed).1 := by
  have hstreak := limits.overrunStreak_concat past elapsed
  have hraised := limits.raised_concat past elapsed
  unfold Supervisor.settle judge
  by_cases hperiod : elapsed ≤ limits.period
  · have hover : limits.overran elapsed = false := decide_eq_false (Nat.not_lt.mpr hperiod)
    rw [hover, if_neg Bool.false_ne_true] at hstreak
    rw [hstreak] at hraised
    simp only [if_pos hperiod]
    -- The streak is broken, so nothing is raised now that was not raised before.
    refine ⟨h.sound, hstreak.symm, h.overrun.trans ?_⟩
    rw [hraised, or_iff_left (Nat.not_lt_zero _)]
  · have hover : limits.overran elapsed = true := decide_eq_true (Nat.not_le.mp hperiod)
    rw [hover, if_pos rfl, ← h.overruns] at hstreak
    rw [hstreak] at hraised
    simp only [if_neg hperiod]
    split
    · next hmax =>
      refine ⟨Safety.makeSafe_sound h.sound _, hstreak.symm, ?_⟩
      exact iff_of_true (Safety.makeSafe_cycleOverrun _) (hraised.mpr (Or.inr hmax))
    · next hmax =>
      refine ⟨h.sound, hstreak.symm, h.overrun.trans ?_⟩
      rw [hraised, or_iff_left hmax]

theorem Tracks.cycle (h : Tracks limits past s)
    (read : String → Option (OperatorPacket g.Input)) (i : CycleInput α) :
    Tracks limits (past ++ [i.elapsed]) (s.cycle limits read i).1 :=
  (h.work read i).settle i.elapsed

end Supervisor

end BoomWalker
