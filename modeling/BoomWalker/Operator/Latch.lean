/-
The newest packet of the operator, and for how long the operator has been silent.
-/
import BoomWalker.Operator.Packet
import BoomWalker.Word

namespace BoomWalker

/-- The held packet and the cycles since it arrived. -/
structure OperatorLatch (ι : Type) where
  packet : Option (OperatorPacket ι)
  /-- Cycles in a row without a packet. -/
  silent : Nat
  /-- Silent cycles that are tolerated. -/
  timeout : Nat

namespace OperatorLatch

variable {ι : Type}

/-- The silence is counted up to here. -/
def maxSilent : Nat := Word.max64

def new (timeout : Nat) : OperatorLatch ι := ⟨none, 0, timeout⟩

/-- Hold a new packet. -/
def accept (l : OperatorLatch ι) (p : OperatorPacket ι) : OperatorLatch ι :=
  { l with packet := some p, silent := 0 }

/-- Note a cycle without a packet. -/
def tick (l : OperatorLatch ι) : OperatorLatch ι :=
  { l with silent := min (l.silent + 1) maxSilent }

/-- The operator is lost before the first packet and after too long a silence. -/
def lost (l : OperatorLatch ι) : Bool := l.packet.isNone || l.timeout < l.silent

/-- Is the operator present, and asks for the gait to run? -/
def enabled (l : OperatorLatch ι) : Bool := !l.lost && l.packet.any (·.enabled)

/-- The inputs of the held packet, or standard ones. -/
def params (l : OperatorLatch ι) (standard : ι) : ι := (l.packet.map (·.params)).getD standard

end OperatorLatch

end BoomWalker
