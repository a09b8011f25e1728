import Rulebook.Defaults.File

/-! # Command line options

Arguments are read from left to right. An option with a value takes it from its own argument, or
from the next one unless that looks like an option. A value in an argument of its own is only
examined when the next option or the end of the line is reached, so an unknown argument after it is
reported first.
-/

namespace Rulebook

/-- What an option sets. -/
inductive Key where
  | source | destination | ports | input | output | config | verbose | logFormat | help
deriving DecidableEq, Repr

def Key.name : Key → String
  | source => "the source list"
  | destination => "the destination list"
  | ports => "the port list"
  | input => "the input path"
  | output => "the output path"
  | config => "the defaults file"
  | verbose => "verbose output"
  | logFormat => "the log format"
  | help => "help"

/-- An option as it may be written: two dashes and a name, or one dash and a letter. -/
structure Switch where
  key : Key
  name : String
  letter? : Option Char
  takesValue : Bool
deriving DecidableEq, Repr

namespace Command

def ownSwitches : Command → List Switch
  | expand =>
    [⟨.source, "source", 's', true⟩, ⟨.destination, "dest", 'd', true⟩,
      ⟨.ports, "ports", 'p', true⟩, ⟨.output, "output", 'o', true⟩]
  | flatten => [⟨.input, "iconfig", 'i', true⟩, ⟨.output, "oconfig", 'o', true⟩]

def switches (command : Command) : List Switch :=
  command.ownSwitches ++
    [⟨.config, "config", 'c', true⟩, ⟨.verbose, "verbose", 'v', false⟩,
      ⟨.logFormat, "log-format", none, true⟩, ⟨.help, "help", 'h', false⟩]

def named? (command : Command) (name : List Char) : Option Switch :=
  command.switches.find? fun switch => switch.name.toList = name

def lettered? (command : Command) (letter : Char) : Option Switch :=
  command.switches.find? fun switch => switch.letter? = some letter

end Command

/-- Why a command line is refused. -/
inductive UsageFault where
  | unknownArgument (argument : String)
  | missingValue (key : Key)
  | badValue (key : Key) (fault : ValueFault)
  | repeated (key : Key)
  /-- A value for an option that takes none. -/
  | unexpectedValue (key : Key)
  /-- No fault at all: help is asked for. -/
  | helpWanted
deriving DecidableEq, Repr

namespace UsageFault

/-- A successful end for a request for help, and a usage error otherwise. -/
def exitCode : UsageFault → Nat
  | helpWanted => 0
  | _ => 2

/-- The account given to the user. -/
def message : UsageFault → String
  | unknownArgument argument => s!"unexpected argument '{argument}'\n"
  | missingValue key => s!"a value is required for {key.name}\n"
  | badValue key fault => s!"invalid value for {key.name}: {fault.message}\n"
  | repeated key => s!"{key.name} cannot be used multiple times\n"
  | unexpectedValue key => s!"{key.name} takes no value\n"
  | helpWanted => ""

end UsageFault

/-- What has been read of a command line. -/
structure Reading where
  /-- Options with their values, in order. Those without a value have the empty one. -/
  given : List (Key × String)
  /-- The last option, not examined yet, with its value if that is there. -/
  pending : Option (Key × Option String)
deriving DecidableEq, Repr

namespace Reading

def start : Reading :=
  ⟨[], none⟩

def value? (reading : Reading) (key : Key) : Option String :=
  reading.given.lookup key

/-- Accepts an option: no option is given twice, and a log format has to exist. -/
def accept (given : List (Key × String)) (key : Key) (value : String) :
    Except UsageFault (List (Key × String)) :=
  if (given.lookup key).isSome then .error (.repeated key)
  else
    match key, LogFormat.ofName value with
    | .logFormat, .error fault => .error (.badValue key fault)
    | _, _ => .ok (given ++ [(key, value)])

/-- Examines the pending option. -/
def settle (reading : Reading) : Except UsageFault (List (Key × String)) :=
  match reading.pending with
  | none => .ok reading.given
  | some (key, none) => .error (.missingValue key)
  | some (key, some value) => accept reading.given key value

/-- Takes an option together with its value. -/
def take (reading : Reading) (key : Key) (value : String) : Except UsageFault Reading := do
  return ⟨← accept (← reading.settle) key value, none⟩

/-- Takes an option whose value is still to come. -/
def await (reading : Reading) (key : Key) : Except UsageFault Reading := do
  return ⟨← reading.settle, some (key, none)⟩

/-- Takes an option without a value. -/
def flag (reading : Reading) (key : Key) : Except UsageFault Reading := do
  match key with
  | .help =>
    let _ ← reading.settle
    throw .helpWanted
  | _ => reading.take key ""

/-- Takes an argument that is no option. It has to be the value that is awaited. -/
def supply (reading : Reading) (argument : String) : Except UsageFault Reading :=
  match reading.pending with
  | some (key, none) => .ok { reading with pending := some (key, some argument) }
  | _ => .error (.unknownArgument argument)

/-- Reads what follows two dashes. -/
def long (command : Command) (reading : Reading) (text : List Char) : Except UsageFault Reading :=
  let name := text.takeWhile (· != '=')
  match command.named? name, (text.dropWhile (· != '=')).tail? with
  | none, _ => .error (.unknownArgument (String.ofList ('-' :: '-' :: name)))
  | some switch, none => if switch.takesValue then reading.await switch.key else reading.flag switch.key
  | some switch, some value =>
    if switch.takesValue then reading.take switch.key (String.ofList value)
    else .error (.unexpectedValue switch.key)

/-- Reads the letters after one dash. The first option with a value takes all that follows it, less
an equals sign in between. -/
def letters (command : Command) (reading : Reading) : List Char → Except UsageFault Reading
  | [] => .ok reading
  | letter :: rest =>
    match command.lettered? letter with
    | none => .error (.unknownArgument (String.ofList ['-', letter]))
    | some switch =>
      if switch.takesValue then
        match rest with
        | [] => reading.await switch.key
        | '=' :: value => reading.take switch.key (String.ofList value)
        | value => reading.take switch.key (String.ofList value)
      else
        match reading.flag switch.key with
        | .ok next => letters command next rest
        | .error fault => .error fault

/-- Reads one argument. -/
def argument (command : Command) (reading : Reading) (argument : String) :
    Except UsageFault Reading :=
  match argument.toList with
  | '-' :: '-' :: text => reading.long command text
  | '-' :: letter :: rest => reading.letters command (letter :: rest)
  | _ => reading.supply argument

/-- Reads all arguments. Nothing may follow two dashes that stand alone. -/
def arguments (command : Command) (reading : Reading) :
    List String → Except UsageFault (List (Key × String))
  | [] => reading.settle
  | first :: rest =>
    if first = "--" then
      match rest with
      | [] => reading.settle
      | stray :: _ => .error (.unknownArgument stray)
    else
      match reading.argument command first with
      | .ok next => next.arguments command rest
      | .error fault => .error fault

end Reading

/-! ## Arguments -/

/-- The options that both commands have. -/
structure CommonArguments where
  config : Option String
  verbose : Bool
  logFormat : Option LogFormat
deriving DecidableEq, Repr

structure ExpandArguments where
  source : Option String
  destination : Option String
  ports : Option String
  output : Option String
  common : CommonArguments
deriving DecidableEq, Repr

structure FlattenArguments where
  input : Option String
  output : Option String
  common : CommonArguments
deriving DecidableEq, Repr

/-- The first argument is the name of the program, whatever it says. -/
def readArguments (command : Command) (arguments : List String) :
    Except UsageFault (List (Key × String)) :=
  Reading.start.arguments command arguments.tail

/-- How much is logged, and how. -/
structure LoggingSettings where
  verbose : Bool
  format : LogFormat
deriving DecidableEq, Repr

namespace CommonArguments

def ofGiven (given : List (Key × String)) : CommonArguments where
  config := given.lookup .config
  verbose := (given.lookup .verbose).isSome
  logFormat := (given.lookup .logFormat).bind fun name => (LogFormat.ofName name).toOption

/-- The command line comes before the file, whose format is looked at only if it is needed. -/
def logging (arguments : CommonArguments) (file : Option DefaultsFile) :
    Except Failure LoggingSettings :=
  let verbose := arguments.verbose || file.any DefaultsFile.verbose
  match arguments.logFormat, file with
  | some format, _ => .ok ⟨verbose, format⟩
  | none, none => .ok ⟨verbose, .compact⟩
  | none, some file =>
    match file.logFormat with
    | .ok format => .ok ⟨verbose, format.getD .compact⟩
    | .error failure => .error failure

end CommonArguments

namespace ExpandArguments

def ofGiven (given : List (Key × String)) : ExpandArguments where
  source := given.lookup .source
  destination := given.lookup .destination
  ports := given.lookup .ports
  output := given.lookup .output
  common := .ofGiven given

def read (arguments : List String) : Except UsageFault ExpandArguments :=
  (readArguments .expand arguments).map ofGiven

/-- The command line comes before the file, the file before the standard settings. -/
def settings (arguments : ExpandArguments) (file : Option DefaultsFile) : ExpandSettings :=
  let defaults := file.bind DefaultsFile.expand
  let standard := ExpandSettings.standard
  { source := (arguments.source <|> defaults.bind ExpandDefaults.source).getD standard.source
    destination :=
      (arguments.destination <|> defaults.bind ExpandDefaults.destination).getD standard.destination
    ports := (arguments.ports <|> defaults.bind ExpandDefaults.ports).getD standard.ports
    output := (arguments.output <|> defaults.bind ExpandDefaults.output).getD standard.output }

end ExpandArguments

namespace FlattenArguments

def ofGiven (given : List (Key × String)) : FlattenArguments where
  input := given.lookup .input
  output := given.lookup .output
  common := .ofGiven given

def read (arguments : List String) : Except UsageFault FlattenArguments :=
  (readArguments .flatten arguments).map ofGiven

/-- The command line comes before the file. An output that neither gives is derived from the input
in force. -/
def settings (arguments : FlattenArguments) (file : Option DefaultsFile) : FlattenSettings :=
  let defaults := file.bind DefaultsFile.flatten
  let input := (arguments.input <|> defaults.bind FlattenDefaults.input).getD
    FlattenSettings.standardInput
  { input
    output := (arguments.output <|> defaults.bind FlattenDefaults.output).getD
      (FlattenSettings.defaultOutput input) }

end FlattenArguments

end Rulebook
