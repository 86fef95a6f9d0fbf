/-
The gaits that the rig can run, by name.
-/
import BoomWalker.Gait.CanonWalk.Form
import BoomWalker.Gait.ConstForce.Form
import BoomWalker.Gait.LegHop.Form
import BoomWalker.Gait.SinWave.Form
import BoomWalker.Gait.SlipWalk.Form
import BoomWalker.Operator.Packet

namespace BoomWalker

/-- The names under which a gait is chosen. -/
inductive GaitName where
  | slipWalk
  | canonWalk
  | legHop
  | constForce
  | sinWave
deriving DecidableEq, Repr, Inhabited

namespace GaitName

def all : List GaitName := [slipWalk, canonWalk, legHop, constForce, sinWave]

/-- The gait of a name. -/
def gait : GaitName → Gait Float
  | slipWalk => SlipWalk.gait
  | canonWalk => CanonWalk.gait
  | legHop => LegHop.gait
  | constForce => ConstForce.gait
  | sinWave => SinWave.gait

def form : (n : GaitName) → GaitForm n.gait
  | slipWalk => SlipWalk.form
  | canonWalk => CanonWalk.form
  | legHop => LegHop.form
  | constForce => ConstForce.form
  | sinWave => SinWave.form

def ofName? (s : String) : Option GaitName := all.find? (·.gait.name == s)

/-- The operator's packet for a gait, unless the text is none. -/
def packet? (n : GaitName) (text : String) : Option (OperatorPacket n.gait.Input) :=
  (OperatorPacket.ofText n.form.inputFields n.gait.defaultInput text).toOption

end GaitName

end BoomWalker
