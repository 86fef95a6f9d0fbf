/-
A timer that limits how often something is published.
-/
import BoomWalker.Scalar

namespace BoomWalker

/-- The least time between publications, and the time of the last one. -/
structure PublishTimer (α : Type) where
  period : α
  last : Option α

namespace PublishTimer

variable {α : Type} [Scalar α]

/-- A timer for a rate in hertz. A rate that is not positive does not limit. -/
def ofRate (rate : α) : PublishTimer α := ⟨if 0 < rate then 1 / rate else 0, none⟩

/-- Has a publication fallen due at the given time? If so the period starts anew. -/
def due (t : PublishTimer α) (now : α) : PublishTimer α × Bool :=
  match t.last with
  | some last => if now - last < t.period then (t, false) else ({ t with last := some now }, true)
  | none => ({ t with last := some now }, true)

/-- The answers for a list of times. -/
def run (t : PublishTimer α) : List α → List Bool
  | [] => []
  | now :: times => (t.due now).2 :: run (t.due now).1 times

end PublishTimer

end BoomWalker
