import Rulebook.Defaults.Substitution
import Rulebook.Logging.Format
import Rulebook.Settings
import Rulebook.Toml.Reader

/-! # The defaults file

A TOML file with up to three sections, whose settings hold where the command line gives none. A
section is a table, or an array of all its settings in their fixed order.
-/

namespace Rulebook

structure ExpandDefaults where
  source : Option String
  destination : Option String
  ports : Option String
  output : Option String
deriving DecidableEq, Repr

structure FlattenDefaults where
  input : Option String
  output : Option String
deriving DecidableEq, Repr

structure LoggingDefaults where
  verbose : Option Bool
  format : Option String
deriving DecidableEq, Repr

structure DefaultsFile where
  expand : Option ExpandDefaults
  flatten : Option FlattenDefaults
  logging : Option LoggingDefaults
deriving DecidableEq, Repr

namespace Toml

/-- The values of a section's settings, in the order of their names. No other key is allowed. -/
def settings? (names : List String) : Value → Option (List (Option Value))
  | .table _ entries =>
    if entries.all fun entry => names.contains entry.1 then
      some (names.map fun name => entries.lookup name)
    else none
  | .array _ items =>
    if items.length < names.length then none else some ((items.take names.length).map some)
  | _ => none

/-- A setting that is a text, if it is given. -/
def text? : Option Value → Option (Option String)
  | none => some none
  | some (.string text) => some (some text)
  | some _ => none

/-- A setting that is true or false, if it is given. -/
def truth? : Option Value → Option (Option Bool)
  | none => some none
  | some (.boolean value) => some (some value)
  | some _ => none

def expandDefaults? (value : Value) : Option ExpandDefaults := do
  match ← settings? ["source", "dest", "ports", "output"] value with
  | [source, destination, ports, output] =>
    some ⟨← text? source, ← text? destination, ← text? ports, ← text? output⟩
  | _ => none

def flattenDefaults? (value : Value) : Option FlattenDefaults := do
  match ← settings? ["input", "output"] value with
  | [input, output] => some ⟨← text? input, ← text? output⟩
  | _ => none

def loggingDefaults? (value : Value) : Option LoggingDefaults := do
  match ← settings? ["verbose", "format"] value with
  | [verbose, format] => some ⟨← truth? verbose, ← text? format⟩
  | _ => none

/-- A section, if it is given. -/
def section? {α : Type} (decode : Value → Option α) : Option Value → Option (Option α)
  | none => some none
  | some value => (decode value).map some

def defaultsFile? (table : Table) : Option DefaultsFile := do
  match ← settings? ["expand", "flatten", "logging"] (.table .opened table) with
  | [expand, flatten, logging] =>
    some ⟨← section? expandDefaults? expand, ← section? flattenDefaults? flatten,
      ← section? loggingDefaults? logging⟩
  | _ => none

end Toml

namespace DefaultsFile

/-- Reads a file's text, after its placeholders are replaced. -/
def ofText (environment : Substitution.Environment) (content : String) :
    Except Failure DefaultsFile :=
  match Toml.read? (Substitution.apply environment content) with
  | none => .error (.configuration .notToml)
  | some table =>
    match Toml.defaultsFile? table with
    | none => .error (.configuration .notDefaults)
    | some file => .ok file

/-- Verbose output is asked for. -/
def verbose (file : DefaultsFile) : Bool :=
  ((file.logging.bind LoggingDefaults.verbose).getD false)

/-- The log format, if one is given. -/
def logFormat (file : DefaultsFile) : Except Failure (Option LogFormat) :=
  match file.logging.bind LoggingDefaults.format with
  | none => .ok none
  | some name =>
    match LogFormat.ofName name with
    | .ok format => .ok (some format)
    | .error fault => .error (.invalidValue "logging.format" name fault)

/-- A check of a setting that may be missing. -/
def checkGiven (check : String → Except Failure Unit) : Option String → Except Failure Unit
  | none => .ok ()
  | some value => check value

def validateExpand (file : DefaultsFile) : Except Failure Unit :=
  match file.expand with
  | none => .ok ()
  | some defaults => do
    checkGiven (checkValue "expand.source") defaults.source
    checkGiven (checkValue "expand.dest") defaults.destination
    checkGiven (checkValue "expand.ports") defaults.ports
    checkGiven (checkPath "expand.output") defaults.output

def validateFlatten (file : DefaultsFile) : Except Failure Unit :=
  match file.flatten with
  | none => .ok ()
  | some defaults => do
    checkGiven (checkPath "flatten.input") defaults.input
    checkGiven (checkPath "flatten.output") defaults.output

/-- All settings of the file are acceptable, whichever command is run. -/
def validate (file : DefaultsFile) : Except Failure Unit := do
  file.validateExpand
  file.validateFlatten
  let _ ← file.logFormat

end DefaultsFile

end Rulebook
