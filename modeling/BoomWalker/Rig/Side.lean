/-
The two sides of the rig, and values held once per side.

`Sided` is the shape of everything that the rig has two of. Exchanging the sides is `Sided.swap`;
code that reads a side only through `get` is symmetric under it.
-/

namespace BoomWalker

/-- One of the two legs. -/
inductive Side where
  | left
  | right
deriving DecidableEq, Repr, Inhabited

namespace Side

/-- The other leg. -/
def opposite : Side → Side
  | left => right
  | right => left

@[simp] theorem opposite_opposite (s : Side) : s.opposite.opposite = s := by cases s <;> rfl

theorem opposite_ne (s : Side) : s.opposite ≠ s := by cases s <;> decide

theorem opposite_inj {s t : Side} : s.opposite = t.opposite ↔ s = t := by
  refine ⟨fun h => ?_, congrArg opposite⟩
  rw [← s.opposite_opposite, h, t.opposite_opposite]

def name : Side → String
  | left => "Left"
  | right => "Right"

end Side

/-- One value for each side. -/
structure Sided (β : Type) where
  left : β
  right : β
deriving DecidableEq, Repr, Inhabited

namespace Sided

variable {β γ : Type}

def get (p : Sided β) : Side → β
  | .left => p.left
  | .right => p.right

def set (p : Sided β) (s : Side) (b : β) : Sided β :=
  match s with
  | .left => { p with left := b }
  | .right => { p with right := b }

def map (f : β → γ) (p : Sided β) : Sided γ := ⟨f p.left, f p.right⟩

/-- Apply a function that may look at the side. -/
def ofFn (f : Side → β) : Sided β := ⟨f .left, f .right⟩

/-- Exchange the sides. -/
def swap (p : Sided β) : Sided β := ⟨p.right, p.left⟩

def both (b : β) : Sided β := ⟨b, b⟩

@[simp] theorem get_set_self (p : Sided β) (s : Side) (b : β) : (p.set s b).get s = b := by
  cases s <;> rfl

@[simp] theorem get_set_opposite (p : Sided β) (s : Side) (b : β) :
    (p.set s b).get s.opposite = p.get s.opposite := by cases s <;> rfl

@[simp] theorem get_swap (p : Sided β) (s : Side) : p.swap.get s = p.get s.opposite := by
  cases s <;> rfl

@[simp] theorem get_ofFn (f : Side → β) (s : Side) : (ofFn f).get s = f s := by cases s <;> rfl

@[simp] theorem get_map (f : β → γ) (p : Sided β) (s : Side) : (p.map f).get s = f (p.get s) := by
  cases s <;> rfl

@[simp] theorem swap_swap (p : Sided β) : p.swap.swap = p := rfl

theorem ext_get {p q : Sided β} (h : ∀ s, p.get s = q.get s) : p = q := by
  obtain ⟨left, right⟩ := p
  obtain ⟨left', right'⟩ := q
  have hleft : left = left' := h .left
  have hright : right = right' := h .right
  rw [hleft, hright]

/-- Values that are found on exchanged sides are exchanged. -/
theorem eq_swap {p q : Sided β} (h : ∀ s, q.get s.opposite = p.get s) : q = p.swap := by
  apply ext_get
  intro s
  rw [get_swap, ← h, Side.opposite_opposite]

end Sided

end BoomWalker
