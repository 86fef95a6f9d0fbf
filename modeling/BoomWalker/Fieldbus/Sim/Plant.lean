/-
The simulated motors of a leg: each velocity approaches a steady value proportional to the current,
and the leg side follows the motor rigidly.
-/
import BoomWalker.Fieldbus.Params
import BoomWalker.Rig.Command

namespace BoomWalker.Plant

variable {α : Type} [Scalar α]

/-- The share of the way to the steady velocity that is covered in a step. -/
def share (timeConstant dt : α) : α :=
  if 0 < timeConstant then Scalar.minNum (dt / timeConstant) 1 else 1

/-- One step of a joint from its angle and velocity. -/
def joint (share gain dt current angle velocity : α) : α × α :=
  let velocity := velocity + share * (gain * current - velocity)
  (angle + velocity * dt, velocity)

/-- One step of a motor and the segment that follows it. -/
def half (share gain dt current : α) (h : HalfState α) : HalfState α :=
  let (angle, velocity) := joint share gain dt current h.motorAngle h.motorVelocity
  ⟨angle, velocity, angle, velocity⟩

/-- One step of a leg that is driven by currents. -/
def step (p : SimParams α) (dt : α) (c : LegCurrents α) (l : LegState α) : LegState α :=
  let s := share p.plantTimeConstant dt
  let (angle, velocity) := joint s p.plantGain dt c.hip l.hip.angle l.hip.velocity
  ⟨half s p.plantGain dt c.a l.a, half s p.plantGain dt c.b l.b, ⟨angle, velocity⟩⟩

end BoomWalker.Plant
