import Rulebook.Failure

/-! # Log formats -/

namespace Rulebook

inductive LogFormat where
  | compact
  | json
deriving DecidableEq, Repr

namespace LogFormat

def name : LogFormat → String
  | compact => "compact"
  | json => "json"

/-- The format that a text names, in either case of its letters. -/
def ofName (text : String) : Except ValueFault LogFormat :=
  match text.toLower with
  | "compact" | "text" => .ok compact
  | "json" => .ok json
  | other => .error (.unknownLogFormat other)

end LogFormat

end Rulebook
