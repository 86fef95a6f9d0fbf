/-
Constant force: the currents that the operator enters go straight to the motors of the left leg,
limited in magnitude. It serves to check the drive chain and the signs of the currents.
-/
import BoomWalker.Gait.Basic

namespace BoomWalker.ConstForce

variable {α : Type}

structure Params (α : Type) where
  /-- Largest current magnitude passed through, in amperes. -/
  maxCurrent : α

structure Input (α : Type) where
  currentA : α
  currentB : α
  currentHip : α

structure State (α : Type) where
  output : Command α

structure Report (α : Type) where
  leftLeg : LegCurrents α

variable [Scalar α]

def Params.standard : Params α := ⟨20⟩

def Input.standard : Input α := ⟨0, 0, 0⟩

/-- The currents entered, each limited to the allowed magnitude. -/
def limited (p : Params α) (i : Input α) : LegCurrents α :=
  ⟨Scalar.clampAbs i.currentA p.maxCurrent, Scalar.clampAbs i.currentB p.maxCurrent,
    Scalar.clampAbs i.currentHip p.maxCurrent⟩

def evaluate (p : Params α) (i : Input α) : Command α :=
  ⟨⟨limited p i, .zero⟩, .run⟩

def gait : Gait α where
  Params := Params α
  Input := Input α
  State := State α
  Report := Report α
  name := "const_force"
  defaultParams := Params.standard
  defaultInput := Input.standard
  initial := ⟨.safe⟩
  configure := fun _ s => s
  reset := fun _ _ _ => ⟨.safe⟩
  onEnable := fun _ _ s => s
  evaluate := fun p _ _ i _ => (⟨evaluate p i⟩, evaluate p i)
  report := fun s => ⟨s.output.legs.left⟩
  log := fun s => (currentColumns s.output).take 3

end BoomWalker.ConstForce
