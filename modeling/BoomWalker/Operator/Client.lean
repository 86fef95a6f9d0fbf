/-
Receiving the operator's packets, once per cycle.
-/
import BoomWalker.Operator.Latch

namespace BoomWalker

/-- What one attempt to receive a message gave. -/
inductive Receipt where
  | text (s : String)
  /-- A message that is no text. -/
  | notText
  /-- The attempt failed for the given reason. -/
  | failed (reason : String)

/-- What a cycle of receiving came to. -/
structure Drained (ι : Type) where
  latch : OperatorLatch ι
  /-- Was a packet accepted? -/
  accepted : Bool
  /-- Why an attempt failed, if one did. -/
  failure : Option String
  /-- What was waiting and is left behind. -/
  rest : List Receipt

namespace OperatorLatch

variable {ι : Type}

/-- Receive what is waiting until nothing is left or an attempt fails. Messages that are no packets
are passed over. -/
def drain (read : String → Option (OperatorPacket ι)) :
    OperatorLatch ι → Bool → List Receipt → Drained ι
  | l, accepted, [] => ⟨l, accepted, none, []⟩
  | l, accepted, .notText :: rs => drain read l accepted rs
  | l, accepted, .failed reason :: rs => ⟨l, accepted, some reason, rs⟩
  | l, accepted, .text s :: rs =>
    match read s with
    | none => drain read l accepted rs
    | some p => drain read (l.accept p) true rs

/-- One cycle of receiving. A cycle without a packet is noted, unless an attempt failed. -/
def update (read : String → Option (OperatorPacket ι)) (l : OperatorLatch ι)
    (rs : List Receipt) : OperatorLatch ι × Option String :=
  match l.drain read false rs with
  | ⟨l, _, some reason, _⟩ => (l, some reason)
  | ⟨l, true, none, _⟩ => (l, none)
  | ⟨l, false, none, _⟩ => (l.tick, none)

end OperatorLatch

end BoomWalker
