/-
The memory of single leg hopping.

The pendulum is the only part of the state that one cycle hands to the next. Enabling does not touch
it: it is seeded anew by a disabled cycle, and by every cycle in flight.
-/
import BoomWalker.Gait.LegHop
import BoomWalker.Proofs.Gait.Memory

namespace BoomWalker.LegHop

variable {α : Type}

/-- The state without the touchdown count and the values shown to the operator. -/
def State.live [Scalar α] (s : State α) : State α :=
  { s with numTouchdowns := 0, reportedForce := (0, 0), reportedR := 0 }

variable [Scalar α]

/-- Flight seeds the pendulum. Stance integrates it if it is what gives the force. -/
def keptUse (snap : Snapshot α) (i : Input α) : KeptUse :=
  match Phase.select snap.position.height i.slipLeg i.debug1 with
  | .flight => .rewrites
  | .stance => if i.constantForce then .keeps else if i.slipForce then .reads else .keeps

/-- A stance cycle that does not follow the pendulum commands the same force whatever it is, and
leaves it alone. -/
theorem stanceForce_of_keeps (p : Params α) (i : Input α) (slip slip' : SlipState α)
    (hkeeps : i.constantForce = true ∨ i.slipForce = false) :
    stanceForce p i slip = (slip, (stanceForce p i slip').2) := by
  unfold stanceForce
  by_cases hconst : i.constantForce = true
  · rw [if_pos hconst, if_pos hconst]
  · have hslip : ¬ i.slipForce = true := by
      rw [Or.resolve_left hkeeps hconst]
      exact Bool.false_ne_true
    rw [if_neg hconst, if_neg hconst, if_neg hslip, if_neg hslip]

theorem keptUse_eq_keeps {snap : Snapshot α} {i : Input α} (h : keptUse snap i = .keeps) :
    Phase.select snap.position.height i.slipLeg i.debug1 = .stance ∧
      (i.constantForce = true ∨ i.slipForce = false) := by
  unfold keptUse at h
  cases hphase : Phase.select snap.position.height i.slipLeg i.debug1 with
  | flight =>
    rw [hphase] at h
    cases h
  | stance =>
    rw [hphase] at h
    refine ⟨rfl, ?_⟩
    cases hconst : i.constantForce with
    | true => exact Or.inl rfl
    | false =>
      cases hslip : i.slipForce with
      | false => exact Or.inr rfl
      | true => simp [hconst, hslip] at h

theorem keptUse_eq_rewrites {snap : Snapshot α} {i : Input α} (h : keptUse snap i = .rewrites) :
    Phase.select snap.position.height i.slipLeg i.debug1 = .flight := by
  unfold keptUse at h
  cases hphase : Phase.select snap.position.height i.slipLeg i.debug1 with
  | flight => rfl
  | stance =>
    rw [hphase] at h
    cases hconst : i.constantForce <;> cases hslip : i.slipForce <;> simp [hconst, hslip] at h

/-- The pendulum is kept when hopping is enabled. -/
def memory : (gait : Gait α).Memory where
  live := State.live
  Posture := Phase
  posture := Report.phase
  Kept := SlipState α
  kept := State.slip
  restore s slip := { s with slip }
  keptUse := keptUse
  posture_live _ := rfl
  reset_live _ _ _ _ := rfl
  onEnable_live _ _ _ := rfl
  evaluate_live _ _ _ _ _ := rfl
  restore_kept _ := rfl
  onEnable_restore _ _ _ _ := rfl
  evaluate_onEnable _ _ _ _ _ := rfl
  evaluate_keeps p _ snap i s slip huse := by
    obtain ⟨hstance, hkeeps⟩ := keptUse_eq_keeps huse
    simp only [gait, evaluate, advance, hstance, Prod.map]
    rw [stanceForce_of_keeps p i slip s.slip hkeeps]
    rfl
  evaluate_rewrites p _ snap i s slip huse := by
    have hflight := keptUse_eq_rewrites huse
    simp only [gait, evaluate, advance, hflight, Prod.map]

end BoomWalker.LegHop
