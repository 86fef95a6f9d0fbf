/-
SLIP walking does not tell its legs apart.

Main statement: exchange the legs in a state and in every snapshot that it is given, and each cycle
shows the same as before with the legs exchanged: the phase names the other leg, the motor currents
change places, and what belongs to neither leg stays as it was. Standing is left out, since it always
begins the walking cycle on the right leg. So are the hips, since the boom carries the legs at
different radii. The statement holds for any scalars, and so for the rounded ones of the controller.
-/
import BoomWalker.Proofs.Gait.SlipWalk.Events

namespace BoomWalker

namespace SlipWalk

variable {α : Type}

@[simp] theorem Phase.stance_swapLegs (p : Phase) : p.swapLegs.stance = p.stance.opposite := by
  cases p <;> rfl

@[simp] theorem Phase.flight_swapLegs (p : Phase) : p.swapLegs.flight = p.flight.opposite := by
  cases p <;> rfl

/-! ## Mirror images -/

/-- Limiters of a leg and of the leg that it is exchanged with, the hips apart. -/
structure LegLimiters.Matches (l m : LegLimiters α) : Prop where
  motorA : m.motorA = l.motorA
  motorB : m.motorB = l.motorB
  restLength : m.restLength = l.restLength

/-- What is made of a leg and of the leg that it is exchanged with. -/
structure LegDrive.Matches (d e : LegDrive α) : Prop where
  limiters : d.limiters.Matches e.limiters
  a : e.a = d.a
  b : e.b = d.b

/-- Reports of cycles in which the legs are exchanged. -/
structure Report.Mirrors (r q : Report α) : Prop where
  mode : q.mode = r.mode
  phase : q.phase = r.phase.swapLegs
  exit : q.exit = r.exit
  numTransitions : q.numTransitions = r.numTransitions
  numIgnored : q.numIgnored = r.numIgnored
  stanceFz : q.stanceFz = r.stanceFz
  flightFz : q.flightFz = r.flightFz

/-- Commands whose motor currents are exchanged between the legs. -/
structure MirrorsMotors (c d : Command α) : Prop where
  code : d.code = c.code
  a (side : Side) : (d.legs.get side.opposite).a = (c.legs.get side).a
  b (side : Side) : (d.legs.get side.opposite).b = (c.legs.get side).b

/-- States in which the legs are exchanged. -/
structure State.Mirrors (s t : State α) : Prop where
  report : (report s).Mirrors (report t)
  limiters (side : Side) : (s.limiters.get side).Matches (t.limiters.get side.opposite)

theorem State.Mirrors.enterMode {s t : State α} (h : s.Mirrors t) (snap : Snapshot α)
    (mode : Mode) :
    (s.enterMode snap mode).Mirrors (t.enterMode snap.swapLegs mode) := by
  obtain ⟨⟨hmode, hphase, hexit, htransitions, hignored, hstance, hflight⟩, hlim⟩ := h
  have hmode : t.mode = s.mode := hmode
  refine ⟨⟨rfl, hphase, hexit, htransitions, hignored, hstance, hflight⟩, fun side => ?_⟩
  obtain ⟨hA, hB, hrest⟩ := hlim side
  simp only [State.enterMode]
  rw [hmode]
  -- The mode that is left decides which limiters are seeded, in both states alike.
  cases s.mode with
  | standing => exact ⟨hA, hB, hrest⟩
  | walking =>
    simp only [seedMotors, LegLimiters.seedMotors, reduceCtorEq, if_false, Sided.get_ofFn,
      Snapshot.get_swapLegs]
    exact ⟨rfl, rfl, hrest⟩
  | shutdown =>
    simp only [seedMotors, seedHips, LegLimiters.seedMotors, LegLimiters.seedHip, reduceCtorEq,
      if_false, if_true, Sided.get_ofFn, Snapshot.get_swapLegs]
    exact ⟨rfl, rfl, hrest⟩

variable [Scalar α]

/-! ## Controllers -/

section Controllers

variable {l m : LegLimiters α} (p : Params α) (i : Input α) (period : α) (leg : LegState α)

theorem standLeg_matches (h : l.Matches m) :
    (standLeg p i period l leg).Matches (standLeg p i period m leg) := by
  obtain ⟨hA, hB, hrest⟩ := h
  unfold standLeg
  rw [hA, hB]
  exact ⟨⟨rfl, rfl, hrest⟩, rfl, rfl⟩

theorem stanceLeg_matches (h : l.Matches m) :
    (stanceLeg p i period l leg).Matches (stanceLeg p i period m leg) := by
  obtain ⟨hA, hB, hrest⟩ := h
  unfold stanceLeg
  rw [hrest]
  exact ⟨⟨hA, hB, rfl⟩, rfl, rfl⟩

/-- Each leg is driven as the leg that it is exchanged with. -/
theorem driveLeg_matches (snap : Snapshot α) {s t : State α} (h : s.Mirrors t) (side : Side) :
    (driveLeg p i period snap s side).Matches
      (driveLeg p i period snap.swapLegs t side.opposite) := by
  have hmode : t.mode = s.mode := h.report.mode
  have hphase : t.phase = s.phase.swapLegs := h.report.phase
  have hexit : t.exit = s.exit := h.report.exit
  have hlim := h.limiters side
  unfold driveLeg
  rw [hmode, hphase, hexit, Snapshot.get_swapLegs]
  cases s.mode with
  | standing => exact standLeg_matches p i period _ hlim
  | shutdown => exact ⟨hlim, rfl, rfl⟩
  | walking =>
    cases s.phase with
    | double stance => exact stanceLeg_matches p i period _ hlim
    | single stance =>
      dsimp only [Phase.swapLegs]
      rw [Snapshot.get_swapLegs]
      by_cases hside : side = stance
      · rw [if_pos hside, if_pos (Side.opposite_inj.mpr hside)]
        exact stanceLeg_matches p i period _ hlim
      · rw [if_neg hside, if_neg (mt Side.opposite_inj.mp hside)]
        exact ⟨hlim, rfl, rfl⟩

theorem addBias_mirrors (mode : Mode) (phase : Phase) (side : Side) {c d : LegCurrents α}
    (ha : d.a = c.a) (hb : d.b = c.b) :
    (addBias p i mode phase.swapLegs side.opposite d).a = (addBias p i mode phase side c).a ∧
      (addBias p i mode phase.swapLegs side.opposite d).b = (addBias p i mode phase side c).b := by
  cases mode with
  | standing => exact ⟨ha, hb⟩
  | shutdown => exact ⟨ha, hb⟩
  | walking =>
    cases phase with
    | double stance => exact ⟨ha, hb⟩
    | single stance =>
      simp only [addBias, Phase.swapLegs, Side.opposite_inj]
      split
      · exact ⟨congrArg (· + p.debugBias) ha, congrArg (· + p.debugBias) hb⟩
      · exact ⟨ha, hb⟩

end Controllers

/-! ## The parts of a cycle -/

section Cycle

variable {s t : State α} (p : Params α) (i : Input α) (period : α) (snap : Snapshot α)

/-- The hip targets of the two states need not agree. -/
theorem State.Mirrors.moveHips (h : s.Mirrors t) :
    (s.moveHips p i period snap).Mirrors (t.moveHips p i period snap.swapLegs) := by
  refine ⟨h.report, fun side => ?_⟩
  simp only [State.moveHips, Sided.get_ofFn]
  obtain ⟨hA, hB, hrest⟩ := h.limiters side
  exact ⟨hA, hB, hrest⟩

theorem State.Mirrors.drive (h : s.Mirrors t) :
    (drive p period snap i s).1.Mirrors (drive p period snap.swapLegs i t).1 ∧
      MirrorsMotors (drive p period snap i s).2 (drive p period snap.swapLegs i t).2 := by
  have hmode : t.mode = s.mode := h.report.mode
  have hphase : t.phase = s.phase.swapLegs := h.report.phase
  have hdriven := driveLeg_matches p i period snap h
  have hbias (side : Side) (x y : α) := addBias_mirrors p i s.mode s.phase side
    (c := ⟨(driveLeg p i period snap s side).a, (driveLeg p i period snap s side).b, x⟩)
    (d := ⟨(driveLeg p i period snap.swapLegs t side.opposite).a,
      (driveLeg p i period snap.swapLegs t side.opposite).b, y⟩) (hdriven side).a (hdriven side).b
  refine ⟨⟨h.report, fun side => ?_⟩, rfl, fun side => ?_, fun side => ?_⟩
  · simp only [SlipWalk.drive, Sided.get_map, Sided.get_ofFn]
    exact (hdriven side).limiters
  · simp only [SlipWalk.drive, Sided.get_ofFn]
    rw [hmode, hphase]
    exact (hbias side _ _).1
  · simp only [SlipWalk.drive, Sided.get_ofFn]
    rw [hmode, hphase]
    exact (hbias side _ _).2

theorem detect_swapLegs (phase : Phase) :
    detect p i snap.swapLegs phase.swapLegs = detect p i snap phase := by
  unfold detect
  rw [Phase.stance_swapLegs, Phase.flight_swapLegs, Snapshot.get_swapLegs, Snapshot.get_swapLegs]
  cases phase with
  | single stance => rfl
  | double stance => rfl

theorem ExitConditions.capture_swapLegs (k : LegKinematics α) (stance : Side) :
    capture k snap.swapLegs stance.opposite = capture k snap stance := by
  unfold capture
  rw [Snapshot.get_swapLegs, Snapshot.get_swapLegs]

theorem State.Mirrors.captureExit (h : s.Mirrors t) (k : LegKinematics α) (stance : Side) :
    (s.captureExit k snap stance).Mirrors (t.captureExit k snap.swapLegs stance.opposite) := by
  obtain ⟨⟨hmode, hphase, -, htransitions, hignored, hstance, hflight⟩, hlim⟩ := h
  refine ⟨⟨hmode, hphase, ExitConditions.capture_swapLegs snap k stance, htransitions, hignored,
    hstance, hflight⟩, fun side => ?_⟩
  simp only [State.captureExit, Sided.get_ofFn, Snapshot.get_swapLegs]
  exact ⟨(hlim side).motorA, (hlim side).motorB, rfl⟩

/-- The state once the forces on the legs have been seen. -/
def State.sees (s : State α) (p : Params α) (i : Input α) (snap : Snapshot α) : State α :=
  { s with
    stanceFz := ((forceTracker p i).compute (snap.legs.get s.phase.stance)).fz
    flightFz := ((forceTracker p i).compute (snap.legs.get s.phase.flight)).fz }

theorem follow_eq (s : State α) :
    s.follow p i snap =
      match detect p i snap s.phase with
      | .hold => s.sees p i snap
      | .ignored => { s.sees p i snap with numIgnored := s.numIgnored + 1 }
      | .transition =>
        { s.sees p i snap with
          phase := s.phase.next
          numTransitions := s.numTransitions + 1 }.captureExit (kinematics p i) snap
            s.phase.stance := rfl

theorem State.Mirrors.sees (h : s.Mirrors t) :
    (s.sees p i snap).Mirrors (t.sees p i snap.swapLegs) := by
  obtain ⟨⟨hmode, hphase, hexit, htransitions, hignored, -, -⟩, hlim⟩ := h
  have hphase : t.phase = s.phase.swapLegs := hphase
  have hstance : (t.sees p i snap.swapLegs).stanceFz = (s.sees p i snap).stanceFz := by
    unfold State.sees
    rw [hphase, Phase.stance_swapLegs, Snapshot.get_swapLegs]
  have hflight : (t.sees p i snap.swapLegs).flightFz = (s.sees p i snap).flightFz := by
    unfold State.sees
    rw [hphase, Phase.flight_swapLegs, Snapshot.get_swapLegs]
  exact ⟨⟨hmode, hphase, hexit, htransitions, hignored, hstance, hflight⟩, hlim⟩

/-- Mirrored states meet the same event, and both follow it. -/
theorem State.Mirrors.follow (h : s.Mirrors t) :
    (s.follow p i snap).Mirrors (t.follow p i snap.swapLegs) := by
  have hphase : t.phase = s.phase.swapLegs := h.report.phase
  have hdetect : detect p i snap.swapLegs t.phase = detect p i snap s.phase := by
    rw [hphase, detect_swapLegs]
  have hseen := h.sees p i snap
  obtain ⟨⟨hmode, _, hexit, htransitions, hignored, hstance, hflight⟩, hlim⟩ := hseen
  rw [follow_eq, follow_eq, hdetect]
  cases detect p i snap s.phase with
  | hold => exact h.sees p i snap
  | ignored =>
    exact ⟨⟨hmode, hphase, hexit, htransitions, congrArg (· + 1) hignored, hstance, hflight⟩, hlim⟩
  | transition =>
    have hnext : t.phase.next = s.phase.next.swapLegs := by
      rw [hphase, Phase.swapLegs_next]
    have hleg : t.phase.stance = s.phase.stance.opposite := by
      rw [hphase, Phase.stance_swapLegs]
    dsimp only
    rw [hleg]
    refine State.Mirrors.captureExit snap ?_ _ _
    exact ⟨⟨hmode, hnext, hexit, congrArg (· + 1) htransitions, hignored, hstance, hflight⟩, hlim⟩

theorem State.Mirrors.conclude (h : s.Mirrors t) (hmode : s.mode ≠ .standing) :
    (s.conclude p i snap).Mirrors (t.conclude p i snap.swapLegs) := by
  have hsame : t.mode = s.mode := h.report.mode
  unfold State.conclude
  rw [hsame]
  cases hmode' : s.mode with
  | standing => exact absurd hmode' hmode
  | walking => exact h.follow p i snap
  | shutdown => exact h

/-- One cycle keeps mirrored states mirrored, and exchanges the motor currents. -/
theorem State.Mirrors.evaluate (h : s.Mirrors t) (hselector : i.mainController ≠ 0) :
    (evaluate p period snap i s).1.Mirrors (evaluate p period snap.swapLegs i t).1 ∧
      MirrorsMotors (evaluate p period snap i s).2 (evaluate p period snap.swapLegs i t).2 := by
  have hentered := h.enterMode snap (Mode.ofSelector i.mainController)
  obtain ⟨hdriven, hmotors⟩ := (hentered.moveHips p i period snap).drive p i period snap
  have hmode : Mode.ofSelector i.mainController ≠ .standing := by
    unfold Mode.ofSelector
    rw [if_neg hselector]
    split
    · decide
    · decide
  rw [evaluate_eq, evaluate_eq]
  exact ⟨hdriven.conclude p i snap hmode, hmotors⟩

end Cycle

/-! ## Runs -/

/-- What a cycle is given when the legs are exchanged. -/
def Given.swapLegs (c : Given α) : Given α := { c with snap := c.snap.swapLegs }

/-- The report and the command of every cycle. -/
def State.shows (p : Params α) : State α → List (Given α) → List (Report α × Command α)
  | _, [] => []
  | s, c :: cs =>
    let answer := evaluate p c.period c.snap c.input s
    (report answer.1, answer.2) :: shows p answer.1 cs

/-- What a cycle shows when the legs are exchanged. -/
structure MirrorsShown (x y : Report α × Command α) : Prop where
  report : x.1.Mirrors y.1
  motors : MirrorsMotors x.2 y.2

/-- Exchanging the legs in the first state and in every snapshot exchanges them in what every cycle
shows. -/
theorem shows_mirrored (p : Params α) {s t : State α} (h : s.Mirrors t) (cs : List (Given α))
    (hselector : ∀ c ∈ cs, c.input.mainController ≠ 0) :
    List.Forall₂ MirrorsShown (s.shows p cs) (t.shows p (cs.map Given.swapLegs)) := by
  induction cs generalizing s t with
  | nil => exact .nil
  | cons c cs ih =>
    obtain ⟨hstates, hmotors⟩ :=
      h.evaluate p c.input c.period c.snap (hselector c List.mem_cons_self)
    have hrest := ih hstates fun c' hc' => hselector c' (List.mem_cons_of_mem c hc')
    exact .cons ⟨hstates.report, hmotors⟩ hrest

/-- A walking cycle in which the legs stand in different poses and every event is made by hand. -/
def strideCycle : Given Float :=
  ⟨0.001, ⟨⟨⟨⟨0.9, 0, 0.8, 0⟩, ⟨1.8, 0, 1.9, 0⟩, ⟨0, 0⟩⟩, ⟨⟨1.3, 0, 1.2, 0⟩, ⟨2.3, 0, 2.4, 0⟩, ⟨0, 0⟩⟩⟩,
      .zero⟩,
    { Input.standard with mainController := 1, manualTakeoff := true, manualTouchdown := true }⟩

/-- The first state, and one that begins on the left leg and has moved a hip: five cycles show the
same with the legs exchanged. -/
theorem initial_shows_mirrored :
    let s : State Float := .initial
    let t : State Float := { State.initial with
      phase := .single .left, limiters := ⟨.zero, { LegLimiters.zero with hip := ⟨1⟩ }⟩ }
    let cs := List.replicate 5 strideCycle
    s.Mirrors t ∧ (∀ c ∈ cs, c.input.mainController ≠ 0) ∧
      List.Forall₂ MirrorsShown (s.shows .standard cs)
        (t.shows .standard (cs.map Given.swapLegs)) := by
  intro s t cs
  have hmirrors : s.Mirrors t := by
    refine ⟨⟨rfl, rfl, rfl, rfl, rfl, rfl, rfl⟩, fun side => ?_⟩
    cases side with
    | left => exact ⟨rfl, rfl, rfl⟩
    | right => exact ⟨rfl, rfl, rfl⟩
  have hselector : ∀ c ∈ cs, c.input.mainController ≠ 0 := by
    intro c hc
    rw [List.eq_of_mem_replicate hc]
    decide
  exact ⟨hmirrors, hselector, shows_mirrored .standard hmirrors cs hselector⟩

end SlipWalk

end BoomWalker
