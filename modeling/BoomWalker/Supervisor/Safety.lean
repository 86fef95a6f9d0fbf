/-
Safe mode: whether the rig is held safe, and why.

Only one cause is held at a time. Safe mode ends when the held cause is cleared; another cause that
arose meanwhile is not remembered. Overruns are the exception: they take the place of any held cause
and are never cleared.
-/
import BoomWalker.Rig.Command

namespace BoomWalker

/-- Why the rig is held safe. -/
inductive SafeCause where
  /-- The operator has been silent for too long. -/
  | guiLost
  /-- Too many cycles in a row took longer than the period. -/
  | cycleOverrun
  /-- The fieldbus delivers no state. -/
  | linkDown
deriving DecidableEq, Repr, Inhabited

namespace SafeCause

def all : List SafeCause := [guiLost, cycleOverrun, linkDown]

def name : SafeCause → String
  | guiLost => "GuiLost"
  | cycleOverrun => "CycleOverrun"
  | linkDown => "FieldbusLinkDown"

def ofName? (s : String) : Option SafeCause := all.find? (·.name == s)

end SafeCause

/-- Safe mode and the cause that is held. -/
structure Safety where
  safe : Bool
  cause : Option SafeCause
deriving DecidableEq, Repr, Inhabited

namespace Safety

/-- Safe mode off. -/
def off : Safety := ⟨false, none⟩

/-- Has an overrun been raised? -/
def overrun (s : Safety) : Bool := s.cause == some .cycleOverrun

/-- Enter safe mode. A cause that is held already stays, unless an overrun takes its place. -/
def makeSafe (s : Safety) (c : SafeCause) : Safety :=
  if ¬ s.safe ∨ c = .cycleOverrun ∧ ¬ s.overrun then ⟨true, some c⟩ else s

/-- Clear a cause. The flag tells whether safe mode is off now, or was never caused. -/
def makeUnsafe (s : Safety) (c : SafeCause) : Safety × Bool :=
  if s.safe then
    match s.cause with
    | none => (s, true)
    | some .cycleOverrun => (s, false)
    | some held => if held = c then (off, true) else (s, false)
  else (s, true)

/-- The command to send when the gait has no say: a fault after an overrun, else idle. -/
def fallback {α : Type} [Scalar α] (s : Safety) : Command α :=
  if s.overrun then .zero .fault else .safe

end Safety

end BoomWalker
