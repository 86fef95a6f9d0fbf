/-
The form of commands in telemetry.
-/
import BoomWalker.Json.Record
import BoomWalker.Rig.Command

namespace BoomWalker

open Json

def LegCurrents.toJson (c : LegCurrents Float) : Json :=
  .obj [("motor_current_a", .real c.a), ("motor_current_b", .real c.b),
    ("motor_current_hip", .real c.hip)]

def Command.toJson (c : Command Float) : Json :=
  .obj [("l_leg", c.legs.left.toJson), ("r_leg", c.legs.right.toJson),
    ("command", .str c.code.name)]

namespace LegCurrents

def fields : List (RecordField (LegCurrents Float)) :=
  [.of "motor_current_a" true readReal fun c x => { c with a := x },
    .of "motor_current_b" true readReal fun c x => { c with b := x },
    .of "motor_current_hip" true readReal fun c x => { c with hip := x }]

def read : Reader (LegCurrents Float) := readRecord false fields zero

end LegCurrents

/-- A command code by its name: a string, or an object whose only field has that name and the
value `null`. -/
def CommandCode.read : Reader CommandCode := fun cs =>
  let find (name : String) : Except ReadError CommandCode :=
    match CommandCode.ofName? name with
    | some c => .ok c
    | none => .error .mismatch
  match skipBlank cs with
  | [] => .error .endOfText
  | '"' :: rest => do
    let (name, rest) ← readQuoted rest
    .ok (← find name, rest)
  | '{' :: rest => do
    let (name, rest) ← readString rest
    let code ← find name
    let rest ← expectChar ':' rest
    match skipBlank rest with
    | 'n' :: rest => .ok (code, ← expectChar '}' (← expectLetters ['u', 'l', 'l'] rest))
    | rest => .error (mismatchAt rest)
  | _ :: _ => .error .malformed

namespace Command

def fields : List (RecordField (Command Float)) :=
  [.of "l_leg" true LegCurrents.read fun c l => { c with legs := c.legs.set .left l },
    .of "r_leg" true LegCurrents.read fun c r => { c with legs := c.legs.set .right r },
    .of "command" true CommandCode.read fun c code => { c with code }]

def read : Reader (Command Float) := readRecord false fields safe

end Command

end BoomWalker
