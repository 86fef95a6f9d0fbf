/-
The events that SLIP walking follows.

Main statement: a cycle of walking either leaves the phase, the exit conditions and the count of
transitions alone, or it enters the next phase, notes how the legs of the phase that ends stand in
its own snapshot, and counts one transition. Which of the two it does depends on the phase, the
snapshot and the operator's inputs only (`Phase.Accepts`). A run of walking cycles therefore moves
on by one of the four phases for each event that it accepts, and its exit conditions are those of
the last of these events.
-/
import BoomWalker.Proofs.Gait.SlipWalk.Memory
import BoomWalker.Proofs.Scalar.Real

namespace BoomWalker.SlipWalk

variable {α : Type} [Scalar α]

/-! ## What ends a phase -/

/-- Does a walking cycle end the phase? In single support the flight leg has to touch down level
with the stance leg or ahead of it, in double support the trailing leg has to take off. -/
def Phase.Accepts (phase : Phase) (p : Params α) (i : Input α) (snap : Snapshot α) : Prop :=
  match phase with
  | single stance =>
    (touchesDown p i (snap.legs.get stance) (snap.legs.get stance.opposite) = true ∨
        i.manualTouchdown = true) ∧
      isForwardStep p i (snap.legs.get stance) (snap.legs.get stance.opposite) = true
  | double stance =>
    takesOff p i (snap.legs.get stance.opposite) = true ∨ i.manualTakeoff = true

/-- Does the flight leg touch down behind the stance leg? -/
def Phase.Ignores (phase : Phase) (p : Params α) (i : Input α) (snap : Snapshot α) : Prop :=
  match phase with
  | single stance =>
    (touchesDown p i (snap.legs.get stance) (snap.legs.get stance.opposite) = true ∨
        i.manualTouchdown = true) ∧
      isForwardStep p i (snap.legs.get stance) (snap.legs.get stance.opposite) = false
  | double _ => False

section Detect

variable {p : Params α} {i : Input α} {snap : Snapshot α} {phase : Phase}

instance instDecidableAccepts : Decidable (phase.Accepts p i snap) :=
  match phase with
  | .single _ => inferInstanceAs (Decidable (_ ∧ _))
  | .double _ => inferInstanceAs (Decidable (_ ∨ _))

instance instDecidableIgnores : Decidable (phase.Ignores p i snap) :=
  match phase with
  | .single _ => inferInstanceAs (Decidable (_ ∧ _))
  | .double _ => inferInstanceAs (Decidable False)

theorem detect_of_accepts (h : phase.Accepts p i snap) : detect p i snap phase = .transition := by
  cases phase with
  | single stance =>
    obtain ⟨htouch, hforward⟩ := h
    exact (if_pos ((Bool.or_eq_true _ _).mpr htouch)).trans (if_pos hforward)
  | double stance => exact if_pos ((Bool.or_eq_true _ _).mpr h)

theorem detect_of_ignores (h : phase.Ignores p i snap) : detect p i snap phase = .ignored := by
  cases phase with
  | single stance =>
    obtain ⟨htouch, hbehind⟩ := h
    have hnot := Bool.eq_false_iff.mp hbehind
    exact (if_pos ((Bool.or_eq_true _ _).mpr htouch)).trans (if_neg hnot)
  | double stance => cases h

theorem detect_of_neither (haccepts : ¬ phase.Accepts p i snap)
    (hignores : ¬ phase.Ignores p i snap) : detect p i snap phase = .hold := by
  cases phase with
  | single stance =>
    refine if_neg fun htouch => ?_
    have htouch := (Bool.or_eq_true _ _).mp htouch
    exact hignores ⟨htouch, Bool.eq_false_iff.mpr fun hforward => haccepts ⟨htouch, hforward⟩⟩
  | double stance => exact if_neg fun hoff => haccepts ((Bool.or_eq_true _ _).mp hoff)

end Detect

/-! ## One cycle -/

/-- The exit conditions are those of two legs in a snapshot. -/
structure ExitConditions.Shows (e : ExitConditions α) (k : LegKinematics α) (snap : Snapshot α)
    (stance flight : Side) : Prop where
  stanceLeg : e.stance = k.legSidePolar (snap.legs.get stance)
  flightLeg : e.flight = k.legSidePolar (snap.legs.get flight)
  stanceMotor : e.stanceMotor =
    ((k.motorSidePolar (snap.legs.get stance)).q, (k.motorSidePolar (snap.legs.get stance)).r)
  flightMotor : e.flightMotor =
    ((k.motorSidePolar (snap.legs.get flight)).q, (k.motorSidePolar (snap.legs.get flight)).r)

theorem ExitConditions.capture_shows (k : LegKinematics α) (snap : Snapshot α) (stance : Side) :
    (capture k snap stance).Shows k snap stance stance.opposite :=
  ⟨rfl, rfl, rfl, rfl⟩

/-- What one cycle makes of the phase, the exit conditions and the counts. -/
structure Follows (p : Params α) (i : Input α) (snap : Snapshot α) (s s' : State α) : Prop where
  /-- A walking cycle that ends the phase. -/
  accepted : i.mainController = 1 → s.phase.Accepts p i snap →
    s'.phase = s.phase.next ∧ s'.exit.Shows p.leg snap s.phase.stance s.phase.flight ∧
      s'.numTransitions = s.numTransitions + 1 ∧ s'.numIgnored = s.numIgnored
  /-- Any other walking cycle. -/
  held : i.mainController = 1 → ¬ s.phase.Accepts p i snap →
    s'.phase = s.phase ∧ s'.exit = s.exit ∧ s'.numTransitions = s.numTransitions ∧
      s'.numIgnored = s.numIgnored + if s.phase.Ignores p i snap then 1 else 0
  standing : i.mainController = 0 →
    s'.phase = .start ∧ s'.exit.Shows p.leg snap .right .left ∧
      s'.numTransitions = s.numTransitions ∧ s'.numIgnored = s.numIgnored
  /-- Every other selector shuts down. -/
  shutdown : i.mainController ≠ 0 → i.mainController ≠ 1 →
    s'.phase = s.phase ∧ s'.exit = s.exit ∧ s'.numTransitions = s.numTransitions ∧
      s'.numIgnored = s.numIgnored

theorem follow_of_accepts {p : Params α} {i : Input α} {snap : Snapshot α} {s : State α}
    (h : s.phase.Accepts p i snap) :
    let s' := s.follow p i snap
    s'.phase = s.phase.next ∧ s'.exit.Shows p.leg snap s.phase.stance s.phase.flight ∧
      s'.numTransitions = s.numTransitions + 1 ∧ s'.numIgnored = s.numIgnored := by
  unfold State.follow
  dsimp only
  rw [detect_of_accepts h]
  -- The spring rate that the operator enters has no part in where the legs are.
  exact ⟨rfl, ExitConditions.capture_shows p.leg snap s.phase.stance, rfl, rfl⟩

theorem follow_of_not_accepts {p : Params α} {i : Input α} {snap : Snapshot α} {s : State α}
    (h : ¬ s.phase.Accepts p i snap) :
    let s' := s.follow p i snap
    s'.phase = s.phase ∧ s'.exit = s.exit ∧ s'.numTransitions = s.numTransitions ∧
      s'.numIgnored = s.numIgnored + if s.phase.Ignores p i snap then 1 else 0 := by
  unfold State.follow
  dsimp only
  by_cases hignores : s.phase.Ignores p i snap
  · rw [detect_of_ignores hignores, if_pos hignores]
    exact ⟨rfl, rfl, rfl, rfl⟩
  · rw [detect_of_neither h hignores, if_neg hignores]
    exact ⟨rfl, rfl, rfl, rfl⟩

theorem Mode.ofSelector_of_ne {n : UInt8} (hstanding : n ≠ 0) (hwalking : n ≠ 1) :
    ofSelector n = shutdown := by
  unfold ofSelector
  rw [if_neg hstanding, if_neg hwalking]

/-- A cycle follows the events of the phase that it begins in. -/
theorem evaluate_follows (p : Params α) (period : α) (snap : Snapshot α) (i : Input α)
    (s : State α) : Follows p i snap s (evaluate p period snap i s).1 := by
  rw [evaluate_eq]
  dsimp only
  -- The controllers leave the phase, the exit conditions and the counts alone.
  let driven := (drive p period snap i
    ((s.enterMode snap (Mode.ofSelector i.mainController)).moveHips p i period snap)).1
  have hmode : driven.mode = Mode.ofSelector i.mainController := rfl
  have hwalk (hwalking : i.mainController = 1) :
      driven.conclude p i snap = driven.follow p i snap := by
    unfold State.conclude
    rw [hmode, hwalking]
    rfl
  constructor
  · intro hwalking haccepts
    rw [hwalk hwalking]
    exact follow_of_accepts (s := driven) haccepts
  · intro hwalking hheld
    rw [hwalk hwalking]
    exact follow_of_not_accepts (s := driven) hheld
  · intro hstanding
    have hconclude : driven.conclude p i snap =
        { driven with phase := .start }.captureExit (kinematics p i) snap .right := by
      unfold State.conclude
      rw [hmode, hstanding]
      rfl
    rw [hconclude]
    exact ⟨rfl, ExitConditions.capture_shows p.leg snap .right, rfl, rfl⟩
  · intro hstanding hwalking
    have hconclude : driven.conclude p i snap = driven := by
      unfold State.conclude
      rw [hmode, Mode.ofSelector_of_ne hstanding hwalking]
    rw [hconclude]
    exact ⟨rfl, rfl, rfl, rfl⟩

/-! ## Runs of walking cycles -/

/-- What a cycle is given. -/
structure Given (α : Type) where
  period : α
  snap : Snapshot α
  input : Input α

/-- Evaluate one cycle after the other. -/
def State.evaluates (s : State α) (p : Params α) (cs : List (Given α)) : State α :=
  cs.foldl (fun s c => (evaluate p c.period c.snap c.input s).1) s

/-- Walking cycles, each with the phase that it begins in. -/
def Phase.walk (p : Params α) : Phase → List (Given α) → List (Phase × Given α)
  | _, [] => []
  | phase, c :: cs =>
    (phase, c) :: walk p (if phase.Accepts p c.input c.snap then phase.next else phase) cs

/-- The walking cycles that end a phase, each with the phase that it ends. -/
def Phase.accepted (phase : Phase) (p : Params α) (cs : List (Given α)) :
    List (Phase × Given α) :=
  (phase.walk p cs).filter fun x => x.1.Accepts p x.2.input x.2.snap

/-- How many touchdowns behind the stance leg there are. -/
def Phase.ignored (phase : Phase) (p : Params α) (cs : List (Given α)) : Nat :=
  (phase.walk p cs).countP fun x => x.1.Ignores p x.2.input x.2.snap

/-- What walking cycles make of the phase, the exit conditions and the counts. -/
structure Walked (p : Params α) (cs : List (Given α)) (s s' : State α) : Prop where
  index : s'.phase.index = (s.phase.index + (s.phase.accepted p cs).length) % 4
  /-- The exit conditions are those of the last event. -/
  exit : ∀ phase c, (s.phase.accepted p cs).getLast? = some (phase, c) →
    s'.exit.Shows p.leg c.snap phase.stance phase.flight
  /-- Without an event they stay what they were. -/
  exit_of_none : s.phase.accepted p cs = [] → s'.exit = s.exit
  numTransitions : s'.numTransitions = s.numTransitions + (s.phase.accepted p cs).length
  numIgnored : s'.numIgnored = s.numIgnored + s.phase.ignored p cs

section Walk

variable {p : Params α} {phase : Phase} {c : Given α}

theorem Phase.Accepts.not_ignores {i : Input α} {snap : Snapshot α}
    (h : phase.Accepts p i snap) : ¬ phase.Ignores p i snap := by
  intro hignores
  cases (detect_of_accepts h).symm.trans (detect_of_ignores hignores)

theorem Phase.walk_cons (p : Params α) (phase : Phase) (c : Given α)
    (cs : List (Given α)) :
    phase.walk p (c :: cs) =
      (phase, c) :: (if phase.Accepts p c.input c.snap then phase.next else phase).walk p cs := rfl

theorem Phase.accepted_cons_of_pos (h : phase.Accepts p c.input c.snap)
    (cs : List (Given α)) :
    phase.accepted p (c :: cs) = (phase, c) :: phase.next.accepted p cs := by
  unfold accepted
  rw [walk_cons, if_pos h]
  exact List.filter_cons_of_pos (by exact decide_eq_true h)

theorem Phase.accepted_cons_of_neg (h : ¬ phase.Accepts p c.input c.snap)
    (cs : List (Given α)) : phase.accepted p (c :: cs) = phase.accepted p cs := by
  unfold accepted
  rw [walk_cons, if_neg h]
  exact List.filter_cons_of_neg (by simpa using h)

theorem Phase.ignored_cons_of_pos (h : phase.Accepts p c.input c.snap)
    (cs : List (Given α)) : phase.ignored p (c :: cs) = phase.next.ignored p cs := by
  unfold ignored
  rw [walk_cons, if_pos h]
  exact List.countP_cons_of_neg (by simpa using h.not_ignores)

theorem Phase.ignored_cons_of_neg (h : ¬ phase.Accepts p c.input c.snap)
    (cs : List (Given α)) :
    phase.ignored p (c :: cs) =
      (if phase.Ignores p c.input c.snap then 1 else 0) + phase.ignored p cs := by
  unfold ignored
  rw [walk_cons, if_neg h, List.countP_cons, Nat.add_comm]
  simp only [decide_eq_true_eq]

end Walk

theorem Walked.nil (p : Params α) (s : State α) : Walked p [] s s := by
  have hindex : s.phase.index % 4 = s.phase.index := by
    rcases s.phase with side | side <;> cases side <;> rfl
  exact ⟨hindex.symm, nofun, fun _ => rfl, rfl, rfl⟩

theorem Walked.cons {p : Params α} {c : Given α} {cs : List (Given α)}
    {s s₁ s' : State α} (hwalking : c.input.mainController = 1)
    (hfirst : Follows p c.input c.snap s s₁) (hrest : Walked p cs s₁ s') :
    Walked p (c :: cs) s s' := by
  obtain ⟨hindex, hexit, hnone, htransitions, hignored⟩ := hrest
  by_cases haccepts : s.phase.Accepts p c.input c.snap
  · -- The rest of the run begins in the next phase.
    obtain ⟨hphase, hshows, htransition, hcount⟩ := hfirst.accepted hwalking haccepts
    have haccepted := Phase.accepted_cons_of_pos haccepts cs
    have hoverlooked := Phase.ignored_cons_of_pos haccepts cs
    rw [← hphase] at haccepted hoverlooked
    constructor
    · rw [hindex, hphase, Phase.index_next, haccepted, hphase, List.length_cons]
      omega
    · intro phase c' hlast
      rw [haccepted, List.getLast?_cons] at hlast
      cases hlater : (s₁.phase.accepted p cs).getLast? with
      | none =>
        -- This event is the last one.
        rw [hlater] at hlast
        cases hlast
        rw [hnone (List.getLast?_eq_none_iff.mp hlater)]
        exact hshows
      | some later =>
        rw [hlater] at hlast
        cases hlast
        exact hexit phase c' hlater
    · intro hempty
      rw [haccepted] at hempty
      cases hempty
    · rw [htransitions, htransition, haccepted, List.length_cons]
      omega
    · rw [hignored, hcount, hoverlooked]
  · obtain ⟨hphase, hsame, htransition, hcount⟩ := hfirst.held hwalking haccepts
    have haccepted := Phase.accepted_cons_of_neg haccepts cs
    have hoverlooked := Phase.ignored_cons_of_neg haccepts cs
    rw [hphase] at hindex hexit hnone htransitions hignored
    constructor
    · rw [hindex, haccepted]
    · rw [haccepted]
      exact hexit
    · rw [haccepted, ← hsame]
      exact hnone
    · rw [htransitions, htransition, haccepted]
    · rw [hignored, hcount, hoverlooked, Nat.add_assoc]

/-- A run walks as its cycles do, by induction from its first cycle. -/
theorem evaluates_walked (p : Params α) (s : State α) {cs : List (Given α)}
    (hwalking : ∀ c ∈ cs, c.input.mainController = 1) : Walked p cs s (s.evaluates p cs) := by
  induction cs generalizing s with
  | nil => exact .nil p s
  | cons c cs ih =>
    have hfirst := evaluate_follows p c.period c.snap c.input s
    have hrest := ih (evaluate p c.period c.snap c.input s).1 fun c' hc' =>
      hwalking c' (List.mem_cons_of_mem c hc')
    exact hrest.cons (hwalking c List.mem_cons_self) hfirst

/-- One cycle from any state, and walking cycles from the first phase on. -/
theorem evaluates_follow_events (p : Params α) :
    (∀ period snap i s, Follows p i snap s (evaluate p period snap i s).1) ∧
      ∀ (s : State α) (cs : List (Given α)), s.phase = .start →
        (∀ c ∈ cs, c.input.mainController = 1) →
        (s.evaluates p cs).phase.index = (s.phase.accepted p cs).length % 4 ∧
          Walked p cs s (s.evaluates p cs) := by
  refine ⟨fun period snap i s => evaluate_follows p period snap i s, ?_⟩
  intro s cs hstart hwalking
  have hwalked := evaluates_walked p s hwalking
  have hindex := hwalked.index
  have hfirst : s.phase.index = 0 := by rw [hstart]; rfl
  rw [hfirst, Nat.zero_add] at hindex
  exact ⟨hindex, hwalked⟩

/-- Walking with all events made by hand. -/
noncomputable def manualCycle : Given ℝ :=
  ⟨1, .zero, { Input.standard with
    mainController := 1, manualTakeoff := true, manualTouchdown := true }⟩

theorem accepts_manualCycle (phase : Phase) :
    phase.Accepts .standard manualCycle.input manualCycle.snap := by
  cases phase with
  | single stance =>
    -- Both legs are in the same pose, so neither toe is ahead of the other.
    have hforward : isForwardStep .standard manualCycle.input (.zero : LegState ℝ) .zero = true :=
      decide_eq_true (le_refl _)
    refine ⟨Or.inr rfl, ?_⟩
    cases stance with
    | left => exact hforward
    | right => exact hforward
  | double stance => exact Or.inr rfl

theorem length_accepted_manualCycle (n : Nat) (phase : Phase) :
    (phase.accepted .standard (List.replicate n manualCycle)).length = n := by
  induction n generalizing phase with
  | zero => rfl
  | succ n ih =>
    rw [List.replicate_succ, Phase.accepted_cons_of_pos (accepts_manualCycle phase),
      List.length_cons, ih]

/-- Five events lead once round the cycle and into the second phase, which the first leads into. -/
theorem manualCycle_evaluates_follow_events :
    let cs := List.replicate 5 manualCycle
    let s := (State.initial : State ℝ).evaluates .standard cs
    (evaluate .standard 1 .zero manualCycle.input (.initial : State ℝ)).1.phase = .double .left ∧
      (State.initial : State ℝ).phase = .start ∧ (∀ c ∈ cs, c.input.mainController = 1) ∧
      s.phase.index = 1 ∧ s.numTransitions = 5 := by
  intro cs s
  have hwalking : ∀ c ∈ cs, c.input.mainController = 1 := by
    intro c hc
    rw [List.eq_of_mem_replicate hc]
    rfl
  obtain ⟨hcycle, hrun⟩ := evaluates_follow_events (Params.standard : Params ℝ)
  obtain ⟨hphase, -⟩ :=
    (hcycle 1 .zero manualCycle.input .initial).accepted rfl (accepts_manualCycle .start)
  obtain ⟨hindex, hwalked⟩ := hrun .initial cs rfl hwalking
  have htransitions := hwalked.numTransitions
  rw [length_accepted_manualCycle] at hindex htransitions
  exact ⟨hphase, rfl, hwalking, hindex, htransitions⟩

end BoomWalker.SlipWalk
