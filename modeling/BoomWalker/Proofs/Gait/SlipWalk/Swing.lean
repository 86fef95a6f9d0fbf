/-
Where the swings of SLIP walking start from.

Main statement: a swing starts from how the stance leg and the flight leg of its phase stood in the
snapshot that was captured last: by a disabled cycle, a standing cycle or the event that ended the
phase before (`latest`). Only disabled cycles and standing capture without an event, though, and a
controller can be enabled straight into walking. Until something is captured the right leg is in
stance, and the swing starts from exit conditions that are all zero (`not_always_captured`).
-/
import BoomWalker.Proofs.Gait.Runs
import BoomWalker.Proofs.Gait.SlipWalk.Events

namespace BoomWalker.SlipWalk

variable {α : Type}

/-- The stance leg of the exit conditions that a phase begins with: in single support it is the leg
that bears the load, in double support the one that bore it before. -/
def Phase.former : Phase → Side
  | single stance => stance
  | double stance => stance.opposite

theorem Phase.former_next (phase : Phase) : phase.next.former = phase.stance := by
  cases phase with
  | single stance => exact stance.opposite_opposite
  | double stance => rfl

variable [Scalar α]

/-! ## Captured snapshots -/

/-- The snapshot that an enabled cycle captures, if it does. -/
def Phase.capture? (phase : Phase) (p : Params α) (i : Input α) (snap : Snapshot α) :
    Option (Snapshot α) :=
  if i.mainController = 0 ∨ i.mainController = 1 ∧ phase.Accepts p i snap then some snap else none

section Capture

variable (c : GaitControl (gait : Gait α)) (e : GaitControl.Event (gait : Gait α))
  (es : List (GaitControl.Event (gait : Gait α)))

/-- The snapshot that an event captures, if it does. -/
def captured? : GaitControl.Event (gait : Gait α) → Option (Snapshot α)
  | .process i => if i.enabled then c.gait.phase.capture? c.params i.gui i.state else some i.state
  | .makeSafe => none

/-- The snapshot that was captured last, if any. -/
def latest (c : GaitControl (gait : Gait α)) :
    List (GaitControl.Event (gait : Gait α)) → Option (Snapshot α)
  | [] => none
  | e :: es => (latest (c.step e).1 es).or (captured? c e)

theorem latest_concat : latest c (es ++ [e]) = (captured? (c.run es).1 e).or (latest c es) := by
  induction es generalizing c with
  | nil => exact (Option.none_or).trans (Option.or_none).symm
  | cons e' es ih =>
    have hrest := ih (c.step e').1
    have hrun : (c.run (e' :: es)).1 = ((c.step e').1.run es).1 := rfl
    rw [hrun, List.cons_append]
    unfold latest
    rw [hrest, Option.or_assoc]

/-- Enabling captures nothing, and leaves the phase alone. -/
theorem wake_kept (snap : Snapshot α) :
    State.phase (c.wake snap) = c.gait.phase ∧ State.exit (c.wake snap) = c.gait.exit := by
  unfold GaitControl.wake
  split
  · exact ⟨rfl, rfl⟩
  · exact ⟨rfl, rfl⟩

end Capture

/-! ## Exit conditions -/

/-- The exit conditions are those of the given snapshot, or were never set. -/
def State.ExitsFrom (s : State α) (k : LegKinematics α) : Option (Snapshot α) → Prop
  | some snap => s.exit.Shows k snap s.phase.former s.phase.former.opposite
  | none => s.phase = .start ∧ s.exit = .zero

theorem State.ExitsFrom.congr {s s' : State α} {k : LegKinematics α} {last : Option (Snapshot α)}
    (h : s.ExitsFrom k last) (hphase : s'.phase = s.phase) (hexit : s'.exit = s.exit) :
    s'.ExitsFrom k last := by
  unfold ExitsFrom at h ⊢
  rw [hphase, hexit]
  exact h

theorem Follows.exitsFrom {p : Params α} {i : Input α} {snap : Snapshot α} {s s' : State α}
    (h : Follows p i snap s s') {last : Option (Snapshot α)} (hlast : s.ExitsFrom p.leg last) :
    s'.ExitsFrom p.leg ((s.phase.capture? p i snap).or last) := by
  unfold Phase.capture?
  by_cases hstanding : i.mainController = 0
  · obtain ⟨hphase, hshows, -, -⟩ := h.standing hstanding
    rw [if_pos (Or.inl hstanding)]
    change s'.exit.Shows p.leg snap s'.phase.former s'.phase.former.opposite
    rw [hphase]
    exact hshows
  · by_cases hwalking : i.mainController = 1
    · by_cases haccepts : s.phase.Accepts p i snap
      · obtain ⟨hphase, hshows, -, -⟩ := h.accepted hwalking haccepts
        rw [if_pos (Or.inr ⟨hwalking, haccepts⟩)]
        change s'.exit.Shows p.leg snap s'.phase.former s'.phase.former.opposite
        rw [hphase, Phase.former_next]
        exact hshows
      · obtain ⟨hphase, hexit, -, -⟩ := h.held hwalking haccepts
        rw [if_neg fun hor => hor.elim hstanding fun hand => haccepts hand.2]
        exact hlast.congr hphase hexit
    · obtain ⟨hphase, hexit, -, -⟩ := h.shutdown hstanding hwalking
      rw [if_neg fun hor => hor.elim hstanding fun hand => hwalking hand.1]
      exact hlast.congr hphase hexit

/-- What an event makes of the exit conditions. -/
theorem exitsFrom_step {p : Params α} {c : GaitControl (gait : Gait α)} (hparams : c.params = p)
    {last : Option (Snapshot α)} (h : State.ExitsFrom c.gait p.leg last)
    (e : GaitControl.Event (gait : Gait α)) :
    State.ExitsFrom (c.step e).1.gait p.leg ((captured? c e).or last) := by
  cases e with
  | makeSafe => exact h
  | process i =>
    obtain ⟨snap, gui, enabled⟩ := i
    cases enabled with
    | false =>
      have hreset : (c.step (.process ⟨snap, gui, false⟩)).1.gait = reset p snap c.gait := by
        rw [← hparams]
        rfl
      rw [hreset]
      exact ExitConditions.capture_shows p.leg snap .right
    | true =>
      have hevaluate : (c.step (.process ⟨snap, gui, true⟩)).1.gait =
          (evaluate p c.framework.cyclePeriod snap gui (c.wake snap)).1 := by
        have hstep : (c.step (.process ⟨snap, gui, true⟩)).1 =
            (c.process ⟨snap, gui, true⟩).1 := rfl
        rw [hstep, GaitControl.process_enabled, ← hparams]
        rfl
      -- Waking up keeps the phase and the exit conditions.
      obtain ⟨hphase, hexit⟩ := wake_kept c snap
      have hfollows := evaluate_follows p c.framework.cyclePeriod snap gui (c.wake snap)
      have hnext := hfollows.exitsFrom (h.congr hphase hexit)
      rw [hphase] at hnext
      have hcaptured : captured? c (.process ⟨snap, gui, true⟩) =
          Phase.capture? (State.phase c.gait) p gui snap := by
        rw [← hparams]
        rfl
      rw [hevaluate, hcaptured]
      exact hnext

/-- Whatever happens to a new controller, its exit conditions are those of the snapshot captured
last, or were never set. -/
theorem exitsFrom_run {f : Framework α} {p : Params α} {c₀ : GaitControl (gait : Gait α)}
    (hnew : GaitControl.new (gait : Gait α) f p = .ok c₀)
    (es : List (GaitControl.Event (gait : Gait α))) :
    State.ExitsFrom (c₀.run es).1.gait p.leg (latest c₀ es) := by
  induction es using List.reverseRecOn with
  | nil =>
    rw [GaitControl.eq_of_new hnew]
    exact ⟨rfl, rfl⟩
  | append_singleton es e ih =>
    rw [GaitControl.run_concat, latest_concat]
    exact exitsFrom_step (GaitControl.params_of_new hnew es) ih e

/-! ## Swings -/

/-- Only the stance leg is given a bias. -/
theorem addBias_opposite (p : Params α) (i : Input α) (mode : Mode) (stance : Side)
    (c : LegCurrents α) : addBias p i mode (.single stance) stance.opposite c = c := by
  cases mode with
  | standing => rfl
  | walking => exact if_neg fun hbias => stance.opposite_ne hbias.2
  | shutdown => rfl

/-- The flight leg of a walking cycle in single support follows the swing from the exit conditions
that were there before the cycle. -/
theorem evaluate_swings (p : Params α) (period : α) (snap : Snapshot α) {i : Input α}
    (hwalking : i.mainController = 1) {s : State α} {stance : Side}
    (hphase : s.phase = .single stance) (lim : LegLimiters α) :
    let currents := (evaluate p period snap i s).2.legs.get stance.opposite
    let swing := swingLeg p i s.exit (snap.legs.get stance) lim (snap.legs.get stance.opposite)
    currents.a = swing.a ∧ currents.b = swing.b := by
  intro currents swing
  let entered := (s.enterMode snap (Mode.ofSelector i.mainController)).moveHips p i period snap
  have hmode : entered.mode = .walking := by
    change Mode.ofSelector i.mainController = .walking
    rw [hwalking]
    rfl
  have hentered : entered.phase = .single stance := hphase
  let flight := driveLeg p i period snap entered stance.opposite
  have hflight : flight = swingLeg p i s.exit (snap.legs.get stance)
      (entered.limiters.get stance.opposite) (snap.legs.get stance.opposite) := by
    unfold flight driveLeg
    rw [hmode, hentered]
    exact if_neg stance.opposite_ne
  have hcurrents : currents = ⟨flight.a, flight.b, hipCurrent i entered.mode
      (entered.limiters.get stance.opposite) (snap.legs.get stance.opposite)⟩ := by
    unfold currents
    rw [evaluate_eq]
    unfold drive
    dsimp only
    rw [Sided.get_ofFn, Sided.get_ofFn, hentered]
    exact addBias_opposite p i _ stance _
  rw [hcurrents, hflight]
  exact ⟨rfl, rfl⟩

/-- A cycle in which a new controller, after any events, has a leg swing. -/
theorem run_swings {f : Framework α} {p : Params α} {c₀ : GaitControl (gait : Gait α)}
    (hnew : GaitControl.new (gait : Gait α) f p = .ok c₀)
    (es : List (GaitControl.Event (gait : Gait α))) (snap : Snapshot α) {i : Input α}
    (hwalking : i.mainController = 1) {stance : Side}
    (hphase : State.phase (c₀.run es).1.gait = .single stance) :
    let c := (c₀.run es).1
    let exit := State.exit c.gait
    (∃ out : Command α,
      (c.process ⟨snap, i, true⟩).2.1 =
        (let ramp := (c.process ⟨snap, i, true⟩).2.2.rampFactor
          if ramp < 1 then out.scale ramp else out) ∧
        ∀ lim,
          let flight := out.legs.get stance.opposite
          let swing := swingLeg p i exit (snap.legs.get stance) lim (snap.legs.get stance.opposite)
          flight.a = swing.a ∧ flight.b = swing.b) ∧
      match latest c₀ es with
      | some earlier => exit.Shows p.leg earlier stance stance.opposite
      | none => stance = .right ∧ exit = .zero := by
  intro c exit
  constructor
  · obtain ⟨hwake, hkept⟩ := wake_kept c snap
    refine ⟨(evaluate p c.framework.cyclePeriod snap i (c.wake snap)).2, ?_, fun lim => ?_⟩
    · have hparams : c.params = p := GaitControl.params_of_new hnew es
      rw [← hparams]
      exact GaitControl.process_ramped c snap i
    · have hswings := evaluate_swings p c.framework.cyclePeriod snap hwalking
        (hwake.trans hphase) lim
      rw [hkept] at hswings
      exact hswings
  · have hexits : State.ExitsFrom c.gait p.leg (latest c₀ es) := exitsFrom_run hnew es
    cases hlatest : latest c₀ es with
    | some earlier =>
      rw [hlatest] at hexits
      change exit.Shows p.leg earlier (State.phase c.gait).former _ at hexits
      rw [hphase] at hexits
      exact hexits
    | none =>
      rw [hlatest] at hexits
      obtain ⟨hstart, hzero⟩ := hexits
      cases hphase.symm.trans hstart
      exact ⟨rfl, hzero⟩

/-- A new controller over exact arithmetic. -/
noncomputable def newController : GaitControl (gait : Gait ℝ) :=
  ⟨⟨1, 0⟩, .standard, configure .initial, false, 0, 0⟩

theorem newController_new :
    GaitControl.new (gait : Gait ℝ) ⟨1, 0⟩ Params.standard = .ok newController := by
  simp [GaitControl.new, Framework.check, newController, gait]

/-- Walking without events. -/
noncomputable def walkInput : Input ℝ := { Input.standard with mainController := 1 }

/-- The swing after a disabled cycle. -/
theorem newController_run_swings :
    let disabled : GaitControl.Event (gait : Gait ℝ) := .process ⟨.zero, walkInput, false⟩
    let rested := (newController.run [disabled]).1
    GaitControl.new (gait : Gait ℝ) ⟨1, 0⟩ Params.standard = .ok newController ∧
      walkInput.mainController = 1 ∧ State.phase rested.gait = .single .right ∧
      (State.exit rested.gait).Shows (Params.standard : Params ℝ).leg .zero .right .left := by
  intro disabled rested
  have hphase : State.phase rested.gait = .single .right := rfl
  obtain ⟨-, hexit⟩ := run_swings newController_new [disabled] .zero (i := walkInput) rfl hphase
  exact ⟨newController_new, rfl, hphase, hexit⟩

/-- Not every swing starts from a captured snapshot. -/
theorem not_always_captured :
    ¬ ∀ (f : Framework ℝ) (p : Params ℝ) (c₀ : GaitControl (gait : Gait ℝ)),
        GaitControl.new (gait : Gait ℝ) f p = .ok c₀ →
        ∀ (es : List (GaitControl.Event (gait : Gait ℝ))) (i : Input ℝ) (stance : Side),
          i.mainController = 1 → State.phase (c₀.run es).1.gait = .single stance →
          ∃ earlier, latest c₀ es = some earlier ∧
            (State.exit (c₀.run es).1.gait).Shows p.leg earlier stance stance.opposite := by
  intro hcaptured
  obtain ⟨earlier, hlatest, -⟩ :=
    hcaptured ⟨1, 0⟩ .standard newController newController_new [] walkInput .right rfl rfl
  cases hlatest

end BoomWalker.SlipWalk
