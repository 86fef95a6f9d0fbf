/-
The memory of SLIP walking.

The limiters, the phase and the exit conditions are handed from one cycle to the next. Enabling
seeds the limiters of the motors and hips. It keeps the phase, the exit conditions and the limiters
of the rest lengths, all of which a disabled cycle sets, and a standing cycle too.
-/
import BoomWalker.Gait.SlipWalk.Cycle
import BoomWalker.Proofs.Gait.Memory

namespace BoomWalker.SlipWalk

variable {α : Type}

/-- What SLIP walking keeps when it is enabled. -/
structure Kept (α : Type) where
  phase : Phase
  exit : ExitConditions α
  restLength : Sided (RateLimiter α)

def State.kept (s : State α) : Kept α :=
  ⟨s.phase, s.exit, s.limiters.map LegLimiters.restLength⟩

def State.restore (s : State α) (k : Kept α) : State α :=
  { s with
    phase := k.phase
    exit := k.exit
    limiters := .ofFn fun side =>
      { s.limiters.get side with restLength := k.restLength.get side } }

/-- Standing starts over, walking goes on from where it was, and shutdown leaves all as it is. -/
def Mode.keptUse : Mode → KeptUse
  | standing => .rewrites
  | walking => .reads
  | shutdown => .keeps

theorem Mode.eq_shutdown {mode : Mode} (h : mode.keptUse = .keeps) : mode = .shutdown := by
  cases mode with
  | standing => cases h
  | walking => cases h
  | shutdown => rfl

theorem Mode.eq_standing {mode : Mode} (h : mode.keptUse = .rewrites) : mode = .standing := by
  cases mode with
  | standing => rfl
  | walking => cases h
  | shutdown => cases h

theorem enterMode_restore (snap : Snapshot α) (mode : Mode) (s : State α) (k : Kept α) :
    (s.restore k).enterMode snap mode = (s.enterMode snap mode).restore k := by
  obtain ⟨left, phase, exit, limiters, numTransitions, numIgnored, stanceFz, flightFz, output⟩ := s
  cases left with
  | standing => rfl
  | walking => rfl
  | shutdown => rfl

/-- Entering a mode after enabling does not depend on the mode that is left: what it would seed,
enabling has seeded. -/
theorem enterMode_onEnable (snap : Snapshot α) (mode : Mode) (s : State α) :
    (onEnable snap s).enterMode snap mode = { onEnable snap s with mode } := by
  unfold State.enterMode onEnable
  cases s.mode with
  | standing => rfl
  | walking => rfl
  | shutdown => rfl

variable [Scalar α]

/-- The state without the counts and the forces that event detection saw. -/
def State.live (s : State α) : State α :=
  { s with numTransitions := 0, numIgnored := 0, stanceFz := 0, flightFz := 0 }

/-- The events that walking follows do not depend on telemetry. -/
theorem follow_live (s : State α) (p : Params α) (i : Input α) (snap : Snapshot α) :
    (s.live.follow p i snap).live = (s.follow p i snap).live := by
  simp only [State.follow, State.live]
  cases detect p i snap s.phase with
  | hold => rfl
  | ignored => rfl
  | transition => rfl

theorem conclude_live (s : State α) (p : Params α) (i : Input α) (snap : Snapshot α) :
    (s.live.conclude p i snap).live = (s.conclude p i snap).live := by
  unfold State.conclude
  cases hmode : s.mode with
  | standing =>
    have hlive : s.live.mode = .standing := hmode
    rw [hlive]
    rfl
  | walking =>
    have hlive : s.live.mode = .walking := hmode
    rw [hlive]
    exact follow_live s p i snap
  | shutdown =>
    have hlive : s.live.mode = .shutdown := hmode
    rw [hlive]
    rfl

/-- Everything of a cycle but its conclusion: the new state, and the command. -/
def drive (p : Params α) (period : α) (snap : Snapshot α) (i : Input α) (s : State α) :
    State α × Command α :=
  let drive : Sided (LegDrive α) := .ofFn (driveLeg p i period snap s)
  let output : Command α :=
    ⟨.ofFn fun side =>
      addBias p i s.mode s.phase side
        ⟨(drive.get side).a, (drive.get side).b,
          hipCurrent i s.mode (s.limiters.get side) (snap.legs.get side)⟩, .run⟩
  ({ s with limiters := drive.map LegDrive.limiters, output }, output)

theorem evaluate_eq (p : Params α) (period : α) (snap : Snapshot α) (i : Input α) (s : State α) :
    evaluate p period snap i s =
      let driven := drive p period snap i
        ((s.enterMode snap (Mode.ofSelector i.mainController)).moveHips p i period snap)
      (driven.1.conclude p i snap, driven.2) := rfl

theorem evaluate_live (p : Params α) (period : α) (snap : Snapshot α) (i : Input α)
    (s : State α) :
    (evaluate p period snap i s.live).map State.live id =
      (evaluate p period snap i s).map State.live id := by
  have hdriven : drive p period snap i
      ((s.live.enterMode snap (Mode.ofSelector i.mainController)).moveHips p i period snap) =
      (drive p period snap i
        ((s.enterMode snap (Mode.ofSelector i.mainController)).moveHips p i period snap)).map
        State.live id := rfl
  rw [evaluate_eq, evaluate_eq, hdriven]
  exact Prod.ext (conclude_live _ p i snap) rfl

/-- Only walking reads what is kept before the conclusion of a cycle. -/
theorem drive_restore (p : Params α) (period : α) (snap : Snapshot α) (i : Input α)
    {s : State α} (hmode : s.mode ≠ .walking) (k : Kept α) :
    drive p period snap i (s.restore k) = (drive p period snap i s).map (·.restore k) id := by
  obtain ⟨mode, phase, exit, limiters, numTransitions, numIgnored, stanceFz, flightFz, output⟩ := s
  cases mode with
  | standing => rfl
  | walking => exact absurd rfl hmode
  | shutdown => rfl

theorem evaluate_restore (p : Params α) (period : α) (snap : Snapshot α) (i : Input α)
    (s : State α) (k : Kept α) (hmode : Mode.ofSelector i.mainController ≠ .walking) :
    evaluate p period snap i (s.restore k) =
      let driven := drive p period snap i
        ((s.enterMode snap (Mode.ofSelector i.mainController)).moveHips p i period snap)
      ((driven.1.restore k).conclude p i snap, driven.2) := by
  rw [evaluate_eq, enterMode_restore]
  have hmove : ((s.enterMode snap (Mode.ofSelector i.mainController)).restore k).moveHips
      p i period snap =
      ((s.enterMode snap (Mode.ofSelector i.mainController)).moveHips p i period snap).restore k :=
    rfl
  rw [hmove, drive_restore p period snap i hmode]
  rfl

/-- The first enabled cycle goes as after a reset, but for what is kept. -/
theorem evaluate_onEnable (p : Params α) (period : α) (snap : Snapshot α) (i : Input α)
    (s : State α) :
    (evaluate p period snap i (onEnable snap s)).map State.live id =
      (evaluate p period snap i
        (onEnable snap ((reset p snap s).restore s.kept))).map State.live id := by
  rw [evaluate_eq, evaluate_eq, enterMode_onEnable, enterMode_onEnable]
  rfl

theorem evaluate_keeps (p : Params α) (period : α) (snap : Snapshot α) (i : Input α)
    (s : State α) (k : Kept α) (huse : (Mode.ofSelector i.mainController).keptUse = .keeps) :
    (evaluate p period snap i (s.restore k)).map State.live id =
      (evaluate p period snap i s).map (fun t => (t.restore k).live) id := by
  have hshutdown := Mode.eq_shutdown huse
  have hmode : Mode.ofSelector i.mainController ≠ .walking := by
    rw [hshutdown]
    decide
  rw [evaluate_restore p period snap i s k hmode, evaluate_eq, hshutdown]
  rfl

theorem evaluate_rewrites (p : Params α) (period : α) (snap : Snapshot α) (i : Input α)
    (s : State α) (k : Kept α) (huse : (Mode.ofSelector i.mainController).keptUse = .rewrites) :
    (evaluate p period snap i (s.restore k)).map State.live id =
      (evaluate p period snap i s).map State.live id := by
  have hstanding := Mode.eq_standing huse
  have hmode : Mode.ofSelector i.mainController ≠ .walking := by
    rw [hstanding]
    decide
  rw [evaluate_restore p period snap i s k hmode, evaluate_eq, hstanding]
  rfl

/-- SLIP walking keeps the phase, the exit conditions and the rest lengths when it is enabled. -/
def memory : (gait : Gait α).Memory where
  live := State.live
  Posture := Mode × Phase
  posture r := (r.mode, r.phase)
  Kept := Kept α
  kept := State.kept
  restore := State.restore
  keptUse _ i := (Mode.ofSelector i.mainController).keptUse
  posture_live _ := rfl
  reset_live _ _ _ _ := rfl
  onEnable_live _ _ _ := rfl
  evaluate_live := evaluate_live
  restore_kept _ := rfl
  onEnable_restore _ _ _ _ := rfl
  evaluate_onEnable := evaluate_onEnable
  evaluate_keeps := evaluate_keeps
  evaluate_rewrites := evaluate_rewrites

end BoomWalker.SlipWalk
