/-
Packets that the operator sends: whether the gait may run, and the gait's inputs.
-/
import BoomWalker.Operator.Input
import BoomWalker.Json.Writer

namespace BoomWalker

open Json

/-- A packet with inputs of type `ι`. -/
structure OperatorPacket (ι : Type) where
  enabled : Bool
  params : ι

namespace OperatorPacket

variable {ι : Type}

def fields (inputs : List (InputField ι)) (standard : ι) : List (RecordField (OperatorPacket ι)) :=
  [.of "enabled" true readBool fun p b => { p with enabled := b },
    .of "params" true (InputField.readInput inputs standard) fun p i => { p with params := i }]

def read (inputs : List (InputField ι)) (standard : ι) : Reader (OperatorPacket ι) :=
  readRecord false (fields inputs standard) ⟨false, standard⟩

/-- A packet from its text. Inputs that are left out take their standard values. -/
def ofText (inputs : List (InputField ι)) (standard : ι) (s : String) :
    Except ReadError (OperatorPacket ι) :=
  readAll (read inputs standard) s

def toJson (inputs : List (InputField ι)) (p : OperatorPacket ι) : Json :=
  .obj [("enabled", .bool p.enabled), ("params", InputField.inputToJson inputs p.params)]

/-- The text of a packet. -/
def toText (inputs : List (InputField ι)) (p : OperatorPacket ι) : String :=
  (p.toJson inputs).render

end OperatorPacket

end BoomWalker
