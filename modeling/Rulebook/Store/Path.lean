/-! # Paths -/

namespace Rulebook

/-- One step of a path, taken from a directory. -/
inductive Step where
  /-- To the directory itself. -/
  | here
  /-- To the directory above, or to the root itself. -/
  | up
  | name (text : String)
deriving DecidableEq, Repr

structure Path where
  steps : List Step
  /-- The path ends in a slash, so it can only denote a directory. -/
  isSlashed : Bool
deriving DecidableEq, Repr

namespace Step

def ofPiece? (piece : List Char) : Option Step :=
  if piece.isEmpty then none
  else if piece = ['.'] then some here
  else if piece = ['.', '.'] then some up
  else some (name (String.ofList piece))

/-- Whether a piece leads nowhere, being no step at all or one that stays where it is. -/
def isIdle (piece : List Char) : Bool :=
  (ofPiece? piece).all (· == here)

end Step

namespace Path

/-- Doubled slashes and a leading one make no difference to the steps. -/
def ofText (text : String) : Path :=
  ⟨(text.toList.splitOn '/').filterMap Step.ofPiece?, text.toList.getLast? == some '/'⟩

/-- The steps without those that stay where they are. -/
def moves (path : Path) : List Step :=
  path.steps.filter (· != .here)

/-- The steps to the directory that has to exist before a file is written. -/
def parent (path : Path) : List Step :=
  path.moves.dropLast

/-- The pieces before the one that makes the last move, without those at their end that lead
nowhere. -/
def beforeLastMove (pieces : List (List Char)) : List (List Char) :=
  ((pieces.reverse.dropWhile Step.isIdle).tail.dropWhile Step.isIdle).reverse

/-- The text of the path by which that directory is asked for. Doubled slashes and steps that stay
where they are still stand in it, but not at its end. -/
def parentText (text : String) : List Char :=
  ['/'].intercalate (beforeLastMove (text.toList.splitOn '/'))

/-- The path seen from a base directory. A path that starts with a slash ignores the base. -/
def join (base path : String) : String :=
  if path.toList.head? == some '/' || base.isEmpty then path
  else if base.toList.getLast? == some '/' then base ++ path
  else base ++ "/" ++ path

end Path

end Rulebook
