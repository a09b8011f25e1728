import Rulebook.Failure
import Rulebook.Text.Quoted

/-! # Settings of the two commands -/

namespace Rulebook

inductive Command where
  | expand
  | flatten
deriving DecidableEq, Repr

def Command.name : Command → String
  | expand => "expand"
  | flatten => "flatten"

/-! ## Checks of single settings -/

def containsNul (text : String) : Bool :=
  text.toList.contains '\x00'

/-- A path is not empty and holds no NUL. -/
def checkPath (field path : String) : Except Failure Unit :=
  if path.isEmpty then .error (.invalidValue field path .emptyPath)
  else if containsNul path then .error (.invalidValue field path .nulInPath)
  else .ok ()

/-- A value argument may be an inline list, even an empty one, but holds no NUL. -/
def checkValue (field value : String) : Except Failure Unit :=
  if containsNul value then .error (.invalidValue field value .nulInValue) else .ok ()

/-- The two paths are spelled differently. -/
def checkDistinct (field input output : String) : Except Failure Unit :=
  if input = output then .error (.invalidValue field output .sameAsInput) else .ok ()

/-! ## Expanding -/

/-- Three value arguments and the document to write. -/
structure ExpandSettings where
  source : String
  destination : String
  ports : String
  output : String
deriving DecidableEq, Repr

namespace ExpandSettings

/-- The settings in force where nothing else is said. -/
def standard : ExpandSettings :=
  ⟨"source.config", "dest.config", "ports.config", "output_config"⟩

instance : Inhabited ExpandSettings := ⟨standard⟩

def validate (settings : ExpandSettings) : Except Failure Unit := do
  checkValue "source" settings.source
  checkValue "dest" settings.destination
  checkValue "ports" settings.ports
  checkPath "output" settings.output

/-- The settings as the log shows them. -/
def describe (settings : ExpandSettings) : String :=
  "ExpandSettings \x7b source: " ++ Text.quoted settings.source ++
    ", dest: " ++ Text.quoted settings.destination ++
    ", ports: " ++ Text.quoted settings.ports ++
    ", output: " ++ Text.quoted settings.output ++ " \x7d"

end ExpandSettings

/-! ## Flattening -/

/-- The document to read and the rule list to write. -/
structure FlattenSettings where
  input : String
  output : String
deriving DecidableEq, Repr

namespace FlattenSettings

/-- The rule list goes next to its document. -/
def defaultOutput (input : String) : String :=
  input ++ "_out"

def ofInput (input : String) : FlattenSettings :=
  ⟨input, defaultOutput input⟩

def standardInput : String :=
  "config"

/-- The settings in force where nothing else is said. -/
def standard : FlattenSettings :=
  ofInput standardInput

instance : Inhabited FlattenSettings := ⟨standard⟩

def validate (settings : FlattenSettings) : Except Failure Unit := do
  checkPath "iconfig" settings.input
  checkPath "oconfig" settings.output
  checkDistinct "oconfig" settings.input settings.output

/-- The settings as the log shows them. -/
def describe (settings : FlattenSettings) : String :=
  "FlattenSettings \x7b input: " ++ Text.quoted settings.input ++
    ", output: " ++ Text.quoted settings.output ++ " \x7d"

/-- A derived output is never the input itself. -/
theorem defaultOutput_ne (input : String) : defaultOutput input ≠ input := by
  intro h
  have lengths := congrArg String.length h
  simp [defaultOutput] at lengths

end FlattenSettings

end Rulebook
