/-
JSON values, and what can go wrong while a text is read.
-/

namespace BoomWalker

/-- A JSON value. Numbers written without point and exponent are kept apart from the others, and
fields keep their order. -/
inductive Json where
  | null
  | bool (b : Bool)
  | int (n : Int)
  | real (x : Float)
  | str (s : String)
  | arr (items : List Json)
  | obj (fields : List (String × Json))

namespace Json

/-- The first problem met while a text is read. -/
inductive ReadError where
  /-- The text ends too early. -/
  | endOfText
  /-- The text is no JSON, or holds a number out of range. -/
  | malformed
  /-- The text is JSON but not of the expected shape. -/
  | mismatch
deriving DecidableEq, Repr

/-- A reader takes a value off the front of a text. -/
abbrev Reader (β : Type) := List Char → Except ReadError (β × List Char)

end Json

end BoomWalker
