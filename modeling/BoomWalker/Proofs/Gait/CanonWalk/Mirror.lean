/-
Canonical walking does not tell its legs apart.

Main statement: exchange the legs in a state and in every snapshot that it is given, and each
walking cycle puts out the same command with the legs exchanged, and leaves the same state with the
legs exchanged. The rig is read by the role of a leg, and what it is read into is kept by its side;
the other modes are left out, since their pose has the left leg in stance. The statement holds for
any scalars, and so for the rounded ones of the controller.
-/
import BoomWalker.Proofs.Gait.CanonWalk.Cycle

namespace BoomWalker.CanonWalk

variable {α : Type}

/-- States in which the legs are exchanged. The mode and the command of the last cycle, which no
cycle reads, need not agree. -/
structure State.Mirrors (s t : State α) : Prop where
  stance : t.stance = s.stance.opposite
  limiters : t.limiters = s.limiters.swap
  y : t.y = s.y
  tau : t.tau = s.tau
  dtau : t.dtau = s.dtau
  numSteps : t.numSteps = s.numSteps

variable [Scalar α]

/-! ## Reading the rig by role -/

section Roles

variable (snap : Snapshot α) (stance : Side)

theorem ofSnapshot_swapLegs :
    Canonical.ofSnapshot snap.swapLegs stance.opposite = Canonical.ofSnapshot snap stance := by
  simp only [Canonical.ofSnapshot, Snapshot.get_swapLegs]
  rfl

theorem rawTau_swapLegs : rawTau snap.swapLegs stance.opposite = rawTau snap stance := by
  simp only [rawTau, ofSnapshot_swapLegs]

theorem boundedTau_swapLegs (p : Params α) :
    boundedTau p snap.swapLegs stance.opposite = boundedTau p snap stance := by
  simp only [boundedTau, rawTau_swapLegs]

theorem tauRate_swapLegs : tauRate snap.swapLegs stance.opposite = tauRate snap stance := by
  simp only [tauRate, ofSnapshot_swapLegs]

/-- A step is completed on either leg alike. -/
theorem stepStance_swapLegs :
    stepStance snap.swapLegs stance.opposite = (stepStance snap stance).opposite := by
  simp only [stepStance, rawTau_swapLegs]
  split
  · rfl
  · rfl

end Roles

/-! ## One cycle -/

section Cycle

variable {s t : State α} (p : Params α) (period : α) (snap : Snapshot α) {i : Input α}

theorem State.Mirrors.advance (h : s.Mirrors t) :
    (s.advance p snap .walking).Mirrors (t.advance p snap.swapLegs .walking) := by
  have hstance : stepStance snap.swapLegs t.stance = (stepStance snap s.stance).opposite := by
    rw [h.stance, stepStance_swapLegs]
  -- The phase is that of the leg after the step, which is mirrored too.
  have htau : boundedTau p snap.swapLegs (stepStance snap.swapLegs t.stance) =
      boundedTau p snap (stepStance snap s.stance) := by
    rw [hstance, boundedTau_swapLegs]
  have hdtau : tauRate snap.swapLegs (stepStance snap.swapLegs t.stance) =
      tauRate snap (stepStance snap s.stance) := by
    rw [hstance, tauRate_swapLegs]
  have hstepped :
      stepStance snap.swapLegs t.stance = t.stance ↔ stepStance snap s.stance = s.stance := by
    rw [hstance, h.stance, Side.opposite_inj]
  refine ⟨hstance, h.limiters, ?_, htau, hdtau, ?_⟩
  · exact congrArg (walkingOutputs walkingCoeffs) htau
  · simp only [State.advance, hstepped, h.numSteps]

/-- Each leg is given the targets of the leg that it is exchanged with. -/
theorem State.Mirrors.targets (h : s.Mirrors t) (hs : s.mode = .walking)
    (ht : t.mode = .walking) : t.targets snap.swapLegs = (s.targets snap).swap := by
  apply Sided.eq_swap
  intro side
  simp only [State.targets, hs, ht, h.stance, h.tau, h.dtau, ofSnapshot_swapLegs, Sided.get_ofFn,
    Side.opposite_inj]

section Walking

variable (h : s.Mirrors t) (hwalking : Mode.ofSelector i.mainController = .walking)

include h hwalking

theorem State.Mirrors.cycle_targets (side : Side) :
    ((evaluate p period snap.swapLegs i t).1.targets snap.swapLegs).get side.opposite =
      ((evaluate p period snap i s).1.targets snap).get side := by
  have htargets := (h.advance p snap).targets snap rfl rfl
  rw [← hwalking] at htargets
  refine (congrArg (fun x => Sided.get x side.opposite) htargets).trans ?_
  rw [Sided.get_swap, Side.opposite_opposite]
  rfl

/-- A limiter stays with its side, and moves on as the one of the exchanged leg does. -/
theorem State.Mirrors.cycle_limiters (side : Side) :
    (evaluate p period snap.swapLegs i t).1.limiters.get side.opposite =
      (evaluate p period snap i s).1.limiters.get side := by
  have hbefore : t.limiters.get side.opposite = s.limiters.get side := by
    rw [h.limiters, Sided.get_swap, Side.opposite_opposite]
  rw [evaluate_limiters, evaluate_limiters, hbefore, h.cycle_targets p period snap hwalking]

theorem State.Mirrors.cycle_legs (side : Side) :
    (evaluate p period snap.swapLegs i t).2.legs.get side.opposite =
      (evaluate p period snap i s).2.legs.get side := by
  rw [evaluate_legs, evaluate_legs, h.cycle_limiters p period snap hwalking,
    h.cycle_targets p period snap hwalking, Snapshot.get_swapLegs]

/-- One walking cycle leaves mirrored states mirrored, and exchanges the currents of the legs. -/
theorem State.Mirrors.cycle :
    (evaluate p period snap i s).1.Mirrors (evaluate p period snap.swapLegs i t).1 ∧
      (evaluate p period snap.swapLegs i t).2 = (evaluate p period snap i s).2.swapLegs := by
  have hlimiters := Sided.eq_swap (h.cycle_limiters p period snap hwalking)
  have hlegs := Sided.eq_swap (h.cycle_legs p period snap hwalking)
  have hadvance := h.advance p snap
  rw [← hwalking] at hadvance
  constructor
  · exact ⟨hadvance.stance, hlimiters, hadvance.y, hadvance.tau, hadvance.dtau, hadvance.numSteps⟩
  · exact congrArg (fun legs => (⟨legs, .run⟩ : Command α)) hlegs

end Walking

end Cycle

/-! ## Runs -/

/-- The state and the command after each cycle, given its snapshot and the operator's inputs. -/
def State.cycles (p : Params α) (period : α) :
    State α → List (Snapshot α × Input α) → List (State α × Command α)
  | _, [] => []
  | s, (snap, i) :: is =>
    let answer := evaluate p period snap i s
    answer :: cycles p period answer.1 is

/-- What is given to a cycle, with the legs exchanged. -/
def mirrorGiven (g : Snapshot α × Input α) : Snapshot α × Input α := (g.1.swapLegs, g.2)

/-- What is left and put out by cycles that differ in the exchange of the legs. -/
structure MirrorsAnswer (x y : State α × Command α) : Prop where
  state : x.1.Mirrors y.1
  command : y.2 = x.2.swapLegs

/-- Exchanging the legs in the first state and in every snapshot of a walk exchanges them in every
command and in every later state. -/
theorem cycles_mirrored (p : Params α) (period : α) {s t : State α} (h : s.Mirrors t)
    {is : List (Snapshot α × Input α)} (hwalking : ∀ g ∈ is, g.2.mainController = 1) :
    List.Forall₂ MirrorsAnswer (s.cycles p period is)
      (t.cycles p period (is.map mirrorGiven)) := by
  induction is generalizing s t with
  | nil => exact .nil
  | cons g is ih =>
    obtain ⟨snap, i⟩ := g
    have hfirst : i.mainController = 1 := hwalking (snap, i) List.mem_cons_self
    have hmode : Mode.ofSelector i.mainController = .walking := by
      rw [hfirst]
      decide
    obtain ⟨hstate, hcommand⟩ := h.cycle p period snap hmode
    have hrest := ih hstate fun g hg => hwalking g (List.mem_cons_of_mem _ hg)
    exact .cons ⟨hstate, hcommand⟩ hrest

/-- A snapshot in which the legs stand in different poses and the torso turns. -/
def strideSnapshot : Snapshot Float :=
  ⟨⟨⟨⟨0.9, 0, 0.8, 0⟩, ⟨1.8, 0.1, 1.9, 0⟩, ⟨4.6, 0⟩⟩,
      ⟨⟨1.3, 0, 1.2, 0⟩, ⟨2.3, 0, 2.4, 0⟩, ⟨4.7, 0.2⟩⟩⟩,
    ⟨4.8, 0.3, 0, 0.9⟩⟩

/-- Limiters that differ from motor to motor: three cycles put out the same with the legs
exchanged. -/
theorem initial_cycles_mirrored :
    let s : State Float := { State.initial with limiters := ⟨⟨⟨1⟩, ⟨2⟩⟩, ⟨⟨3⟩, ⟨4⟩⟩⟩ }
    let t : State Float :=
      { State.initial with stance := .right, limiters := ⟨⟨⟨3⟩, ⟨4⟩⟩, ⟨⟨1⟩, ⟨2⟩⟩⟩ }
    let walk : Input Float := { Input.standard with mainController := 1 }
    let is := List.replicate 3 (strideSnapshot, walk)
    s.Mirrors t ∧ (∀ g ∈ is, g.2.mainController = 1) ∧
      List.Forall₂ MirrorsAnswer (s.cycles .standard 0.001 is)
        (t.cycles .standard 0.001 (is.map mirrorGiven)) := by
  intro s t walk is
  have hmirrors : s.Mirrors t := ⟨rfl, rfl, rfl, rfl, rfl, rfl⟩
  have hwalking : ∀ g ∈ is, g.2.mainController = 1 := by
    intro g hg
    rw [List.eq_of_mem_replicate hg]
  exact ⟨hmirrors, hwalking, cycles_mirrored .standard 0.001 hmirrors hwalking⟩

end BoomWalker.CanonWalk
