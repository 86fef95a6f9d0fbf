/-
Why a file or a directory cannot be used.
-/

namespace BoomWalker

inductive FileFault where
  | notFound
  | notDirectory
  /-- The contents are no text. -/
  | notText
  /-- A fault of another kind, in the words of the system. -/
  | other (text : String)
deriving DecidableEq, Repr

def FileFault.message : FileFault → String
  | notFound => "No such file or directory (os error 2)"
  | notDirectory => "Not a directory (os error 20)"
  | notText => "stream did not contain valid UTF-8"
  | other text => text

end BoomWalker
