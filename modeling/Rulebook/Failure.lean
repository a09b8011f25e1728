import Rulebook.Document.Issue
import Rulebook.Text.Utf8

/-! # Why a run fails -/

namespace Rulebook

/-- The kinds of failed file access that callers tell apart. -/
inductive AccessKind where
  | notFound | alreadyExists | notADirectory | isADirectory | invalidFilename | invalidInput
  | invalidData | permissionDenied | other
deriving DecidableEq, Repr

/-- Why a file cannot be read or written. -/
inductive AccessFault where
  /-- A store of named files holds no file of that name. -/
  | noSuchFile
  /-- The bytes of a file are not UTF-8, and this is their first defect. -/
  | broken (defect : Text.Utf8.Defect)
  | notFound | alreadyExists | notADirectory | isADirectory
  /-- A name of more than 255 bytes, or a path of 4096 or more. -/
  | nameTooLong
  | nulInName
  /-- A file on disk that is not UTF-8. -/
  | notUtf8
  /-- Any other cause, in its own words. -/
  | stated (kind : AccessKind) (reason : String)
deriving DecidableEq, Repr

namespace AccessFault

def kind : AccessFault → AccessKind
  | noSuchFile | notFound => .notFound
  | broken _ | notUtf8 => .invalidData
  | alreadyExists => .alreadyExists
  | notADirectory => .notADirectory
  | isADirectory => .isADirectory
  | nameTooLong => .invalidFilename
  | nulInName => .invalidInput
  | stated kind _ => kind

def message : AccessFault → String
  | noSuchFile => "no such file"
  | broken (.invalid start length) =>
    s!"invalid utf-8 sequence of {length} bytes from index {start}"
  | broken (.incomplete start) => s!"incomplete utf-8 byte sequence from index {start}"
  | notFound => "No such file or directory (os error 2)"
  | alreadyExists => "File exists (os error 17)"
  | notADirectory => "Not a directory (os error 20)"
  | isADirectory => "Is a directory (os error 21)"
  | nameTooLong => "File name too long (os error 36)"
  | nulInName => "file name contained an unexpected NUL byte"
  | notUtf8 => "stream did not contain valid UTF-8"
  | stated _ reason => reason

end AccessFault

/-- Why a setting is refused. -/
inductive ValueFault where
  | emptyPath
  | nulInPath
  | nulInValue
  /-- The output would replace the input. -/
  | sameAsInput
  | unknownLogFormat (name : String)
  | stated (reason : String)
deriving DecidableEq, Repr

def ValueFault.message : ValueFault → String
  | emptyPath => "Path cannot be empty"
  | nulInPath => "Path contains null bytes"
  | nulInValue => "Value contains null bytes"
  | sameAsInput => "Output path must differ from the input path"
  | unknownLogFormat name => s!"unknown log format '{name}' (expected compact or json)"
  | stated reason => reason

/-- Why a defaults file is refused. -/
inductive DefaultsFault where
  /-- The text is no TOML. -/
  | notToml
  /-- The text is TOML, but its keys or values are not those of a defaults file. -/
  | notDefaults
  | stated (reason : String)
deriving DecidableEq, Repr

def DefaultsFault.message : DefaultsFault → String
  | notToml => "TOML parsing error: the text is not well formed"
  | notDefaults => "TOML parsing error: unexpected key or type of value"
  | stated reason => reason

inductive Failure where
  | access (path : String) (fault : AccessFault)
  /-- The rule list cannot be written out. -/
  | output (fault : AccessFault)
  /-- A line of a list file that is not one value. -/
  | malformedList (path : String) (line : Nat) (content : String)
  /-- A document with fatal issues. All its issues are kept. -/
  | invalidDocument (issues : List Issue)
  | configuration (fault : DefaultsFault)
  | invalidValue (field value : String) (fault : ValueFault)
deriving DecidableEq, Repr

/-- The part of the job that a failure belongs to. -/
inductive Category where
  | input | validation | configuration | access | output
deriving DecidableEq, Repr

namespace Category

def name : Category → String
  | input => "Input"
  | validation => "Validation"
  | configuration => "Configuration"
  | access => "Io"
  | output => "Output"

/-- What the user can do about it. -/
def suggestion : Category → String
  | input => "Put exactly one value per line in list files, without spaces or commas"
  | validation =>
    "Give every destination line at least one port and start the file with a [source] header"
  | configuration => "Check the command line options and the --config file"
  | access => "Check that the file exists and that its directory is writable"
  | output => "Check free disk space and permissions on the output path"

end Category

namespace Failure

def category : Failure → Category
  | access .. => .access
  | output _ => .output
  | malformedList .. => .input
  | invalidDocument _ => .validation
  | configuration _ | invalidValue .. => .configuration

/-- The full account, for the log. -/
def message : Failure → String
  | access path fault => s!"IO error on '{path}': {fault.message}"
  | output fault => s!"CSV output error: {fault.message}"
  | malformedList path line content =>
    s!"Invalid list file '{path}' at line {line}: '{content}' (one value per line)"
  | invalidDocument issues =>
    s!"Stanza document is invalid: {issues.length} structural error(s)"
  | configuration fault => s!"Configuration error: {fault.message}"
  | invalidValue field value fault =>
    s!"Invalid value for '{field}': '{value}' ({fault.message})"

/-- The account given to the user. It counts the fatal issues only. -/
def userMessage : Failure → String
  | access path fault => s!"Could not access '{path}': {fault.message}"
  | output fault => s!"Failed to write the rule list: {fault.message}"
  | malformedList path line content =>
    s!"Invalid config '{path}': line {line} ('{content}') holds more than one value"
  | invalidDocument issues =>
    s!"Stanza config has {issues.countP Issue.isFatal} error(s); no rules were written"
  | configuration fault => s!"Configuration problem: {fault.message}"
  | invalidValue field _ fault => s!"Option '{field}' is invalid: {fault.message}"

def suggestion (failure : Failure) : String :=
  failure.category.suggestion

end Failure

end Rulebook
