import Rulebook.Event
import Rulebook.Text.Blank

/-! # Log filters

A filter is a list of directives, each of which sets how much is logged, for all targets or for
those whose name starts with its own.
-/

namespace Rulebook

structure Directive where
  /-- The start of the names of the targets meant, empty for all. -/
  target : List Char
  /-- The verbosity of the highest level let through, zero for none. -/
  threshold : Nat
deriving DecidableEq, Repr

abbrev LogFilter := List Directive

namespace LogFilter

/-- The threshold that a word names, in either case of its letters, or a digit. -/
def threshold? (word : List Char) : Option Nat :=
  match (String.ofList word).toLower with
  | "off" | "0" => some 0
  | "error" | "1" => some Level.error.verbosity
  | "warn" | "2" => some Level.warn.verbosity
  | "info" | "3" => some Level.info.verbosity
  | "debug" | "4" => some Level.debug.verbosity
  | "trace" | "5" => some Level.trace.verbosity
  | _ => none

/-- Letters, digits and the marks that join them. -/
def isTarget (name : List Char) : Bool :=
  !name.isEmpty && name.all fun c =>
    c.isAlphanum || c == '_' || c == ':' || c == '-' || (0x80 ≤ c.toNat && !Text.isBlank c)

/-- A directive is a level for all targets, a target with its level, or a target alone, which lets
everything through. -/
def directive? (text : List Char) : Option Directive :=
  let name := text.takeWhile (· != '=')
  match text.dropWhile (· != '=') with
  | [] =>
    match threshold? name with
    | some threshold => some ⟨[], threshold⟩
    | none => if isTarget name then some ⟨name, Level.trace.verbosity⟩ else none
  | _ :: level =>
    if !isTarget name then none
    else if level.isEmpty then some ⟨name, Level.trace.verbosity⟩
    else (threshold? level).map fun threshold => ⟨name, threshold⟩

/-- The filter that directives separated by commas write. Empty ones do not count, and a filter
without directives lets nothing through. -/
def ofText? (text : String) : Option LogFilter :=
  ((text.toList.splitOn ',').filter fun piece => !piece.isEmpty).mapM directive?

/-- The filter in force where none is given. -/
def standard (verbose : Bool) : LogFilter :=
  [⟨[], if verbose then Level.debug.verbosity else Level.info.verbosity⟩]

/-- The filter that a text asks for, or the standard one if there is no text or it is no filter. -/
def choose (text : Option String) (verbose : Bool) : LogFilter :=
  (text.bind ofText?).getD (standard verbose)

/-- The threshold for a target: the directive with the longest name decides, the last of equals. -/
def thresholdOf (filter : LogFilter) (target : String) : Nat :=
  let fitting := filter.filter fun directive => directive.target.isPrefixOf target.toList
  let decisive := fitting.foldl (fun best next =>
    match best with
    | some directive =>
      if directive.target.length ≤ next.target.length then some next else some directive
    | none => some next) (none : Option Directive)
  (decisive.map Directive.threshold).getD 0

def admits (filter : LogFilter) (event : Event) : Bool :=
  event.level.verbosity ≤ filter.thresholdOf event.target

end LogFilter

end Rulebook
