/-
The spring-loaded inverted pendulum: a point mass on a massless spring leg that is pinned at the
toe, and its integration by the classical Runge-Kutta method of order four.
-/
import BoomWalker.Scalar

namespace BoomWalker

/-- Leg length and angle of the pendulum, with their rates. -/
structure SlipState (α : Type) where
  r : α
  dr : α
  q : α
  dq : α
deriving Inhabited

/-- Parameters of the pendulum. -/
structure SlipModel (α : Type) where
  /-- Stiffness, in newtons per metre. -/
  spring : α
  /-- Rest length of the spring, in metres. -/
  restLength : α
  /-- Point mass, in kilograms. -/
  mass : α
  /-- Gravitational acceleration, negative for down, in metres per second squared. -/
  gravity : α

/-- Gravity at the rig's site. -/
def standardGravity {α : Type} [Scalar α] : α := -9.81

namespace SlipState

variable {α : Type}

def zero [Scalar α] : SlipState α := ⟨0, 0, 0, 0⟩

/-- Combine component by component. -/
def zipWith (f : α → α → α) (x y : SlipState α) : SlipState α :=
  ⟨f x.r y.r, f x.dr y.dr, f x.q y.q, f x.dq y.dq⟩

/-- Multiply every component. -/
def scale [Scalar α] (x : SlipState α) (c : α) : SlipState α :=
  ⟨x.r * c, x.dr * c, x.q * c, x.dq * c⟩

def add [Scalar α] (x y : SlipState α) : SlipState α := zipWith (· + ·) x y

end SlipState

namespace SlipModel

variable {α : Type} [Scalar α]

/-- The pendulum under the rig's gravity. -/
def onSite (spring restLength mass : α) : SlipModel α := ⟨spring, restLength, mass, standardGravity⟩

/-- Time derivative of the state; its components are the rates of `r`, `dr`, `q` and `dq`. -/
def derivative (m : SlipModel α) (s : SlipState α) : SlipState α :=
  let ddr := s.r * s.dq * s.dq + m.gravity * Scalar.sin s.q +
    m.spring * (m.restLength - s.r) / m.mass
  let ddq := -(2 * s.dq * s.dr + m.gravity * Scalar.cos s.q) / s.r
  ⟨s.dr, ddr, s.dq, ddq⟩

/-- One Runge-Kutta step of length `dt`. -/
def step (m : SlipModel α) (x : SlipState α) (dt : α) : SlipState α :=
  let k1 := m.derivative x
  let k2 := m.derivative (x.add (k1.scale (dt / 2)))
  let k3 := m.derivative (x.add (k2.scale (dt / 2)))
  let k4 := m.derivative (x.add (k3.scale dt))
  x.add ((((k1.add (k2.scale 2)).add (k3.scale 2)).add k4).scale (dt / 6))

/-- Force of the spring on the toe, horizontal and vertical. -/
def radialForce (m : SlipModel α) (s : SlipState α) : α × α :=
  let f := m.spring * (m.restLength - s.r)
  (f * Scalar.cos s.q, f * Scalar.sin s.q)

end SlipModel

end BoomWalker
