/-
Rows of an archive file. Cells are numbers or names of columns and hold neither a comma nor a quote,
so they are written as they are.
-/
import BoomWalker.Decimal.Plain
import BoomWalker.Gait.Basic

namespace BoomWalker

/-- The cells of a line. -/
abbrev Row := List String

/-- The line of a row. A row without cells is told from an empty line by a pair of quotes. -/
def Row.text : Row → String
  | [] => "\"\""
  | cells => String.intercalate "," cells

/-- A number as a cell: the fewest digits that read back. -/
def realCell (x : Float) : String :=
  if x.isNaN then "NaN"
  else if x.isInf then (if x < 0 then "-inf" else "inf")
  else String.ofList (Decimal.numeral x)

/-- Records that an archive can hold. -/
class Tabular (ρ : Type) where
  /-- Names of the columns; none if they have no names. -/
  header : ρ → Row
  cells : ρ → Row

def Cell.text : Cell Float → String
  | .index n => toString n
  | .real x => realCell x

instance instTabularRecord : Tabular (Record Float) where
  header r := r.map (·.1)
  cells r := r.map (·.2.text)

instance instTabularReals : Tabular (List Float) where
  header _ := []
  cells := List.map realCell

end BoomWalker
