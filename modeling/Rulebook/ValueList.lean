import Rulebook.Failure
import Rulebook.Text.Blank
import Rulebook.Text.Lines

/-! # Value lists

A value argument is either a list of values joined by commas or the name of a list file, which holds
one value on each line.
-/

namespace Rulebook.ValueList

/-- An argument names a list file if the text after its last dot, or all of it if it has no dot, is
`config`. -/
def isListFile (argument : String) : Bool :=
  (argument.toList.splitOn '.').getLast? == some "config".toList

/-- The pieces between the commas, empty ones included. -/
def splitInline (argument : String) : List String :=
  (argument.toList.splitOn ',').map String.ofList

/-- Empty lines and comments hold no value. -/
def isSkipped (line : List Char) : Bool :=
  line.isEmpty || line.head? == some '#'

/-- A line with a blank or a comma is not one value. -/
def isMalformed (line : List Char) : Bool :=
  line.any fun c => Text.isBlank c || c == ','

/-- The values of lines numbered from `number` on. -/
def ofLines (path : String) (number : Nat) : List (List Char) → Except Failure (List String)
  | [] => .ok []
  | line :: rest =>
    if isSkipped line then ofLines path (number + 1) rest
    else if isMalformed line then .error (.malformedList path number (String.ofList line))
    else
      match ofLines path (number + 1) rest with
      | .ok values => .ok (String.ofList line :: values)
      | .error failure => .error failure

/-- The values of a list file, or its first malformed line. -/
def ofFile (path content : String) : Except Failure (List String) :=
  ofLines path 1 (Text.physicalLines content.toList)

end Rulebook.ValueList
