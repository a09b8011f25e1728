import Rulebook.CommandLine
import Rulebook.Logging.Filter
import Rulebook.StagedRun
import Rulebook.Store.Tree

/-! # The commands as whole programs

A program takes its arguments, the environment and the disk it runs on, and ends with an exit code,
an error text, the log lines that pass the filter, and the disk as it is then.
-/

namespace Rulebook

/-- The line that names a failure to the user. -/
def Failure.notice (failure : Failure) : String :=
  "❌ " ++ failure.userMessage ++ "\n"

/-- The line that tells the user what to do. -/
def Failure.advice (failure : Failure) : String :=
  "💡 Suggestion: " ++ failure.suggestion ++ "\n"

/-- The fatal issues of a refused document, one on each line. -/
def Failure.details : Failure → String
  | .invalidDocument issues =>
    String.join ((issues.filter Issue.isFatal).map fun issue => "  " ++ issue.message ++ "\n")
  | _ => ""

/-- A command line that has been understood. -/
inductive Invocation where
  | expand (arguments : ExpandArguments)
  | flatten (arguments : FlattenArguments)
deriving DecidableEq, Repr

namespace Invocation

def read (command : Command) (arguments : List String) : Except UsageFault Invocation :=
  match command with
  | .expand => (ExpandArguments.read arguments).map expand
  | .flatten => (FlattenArguments.read arguments).map flatten

def command : Invocation → Command
  | expand _ => .expand
  | flatten _ => .flatten

def common : Invocation → CommonArguments
  | expand arguments => arguments.common
  | flatten arguments => arguments.common

/-- The run with its settings, which are shown and checked first. -/
def perform (invocation : Invocation) (file : Option DefaultsFile) : Action String :=
  match invocation with
  | expand arguments => do
    let settings := arguments.settings file
    .say (.expandConfigured settings)
    .ofExcept settings.validate
    settings.staged.run
  | flatten arguments => do
    let settings := arguments.settings file
    .say (.flattenConfigured settings)
    .ofExcept settings.validate
    settings.staged.run

/-- What the command does once logging is set up: it checks the defaults file, then runs. -/
def body (invocation : Invocation) (file : Option DefaultsFile) : Action String := do
  .say (.optionsTaken invocation.command)
  match file with
  | some file => .ofExcept file.validate
  | none => pure ()
  invocation.perform file

end Invocation

/-- What stands on the output of a program. -/
inductive Display where
  | nothing
  | help
  | log (format : LogFormat) (events : List Event)

/-- What is seen of a program from outside. -/
structure ProgramOutcome where
  exitCode : Nat
  display : Display
  errorText : String
  disk : Disk

/-- The last event of a command. -/
def Command.conclusion (command : Command) : Except Failure String → Event
  | .ok output => .commandSucceeded command output
  | .error failure => .commandFailed command failure

/-- What a command tells the user in the end. Flattening lists the fatal issues first. -/
def Command.errorText (command : Command) : Except Failure String → String
  | .ok _ => ""
  | .error failure =>
    (match command with
      | .expand => ""
      | .flatten => failure.details) ++ failure.notice ++ failure.advice

namespace Program

def exitCode {α : Type} : Except Failure α → Nat
  | .ok _ => 0
  | .error _ => 1

/-- The variable that sets the log filter. -/
def filterVariable : String :=
  "RUST_LOG"

/-- The defaults file at a path on disk. -/
def loadDefaults (environment : Substitution.Environment) (disk : Disk) (path : String) :
    Except Failure DefaultsFile :=
  match Store.read disk path with
  | .error fault => .error (.access path fault)
  | .ok content => DefaultsFile.ofText environment content

/-- The defaults file that the arguments name, if they name one. -/
def defaults (environment : Substitution.Environment) (disk : Disk) (arguments : CommonArguments) :
    Except Failure (Option DefaultsFile) :=
  match arguments.config with
  | none => .ok none
  | some path => (loadDefaults environment disk path).map some

/-- What has to be known before anything is logged. -/
def prepare (environment : Substitution.Environment) (disk : Disk) (arguments : CommonArguments) :
    Except Failure (Option DefaultsFile × LoggingSettings) := do
  let file ← defaults environment disk arguments
  return (file, ← arguments.logging file)

/-- The log of a command, with its conclusion, as far as the filter lets it through. -/
def log (environment : Substitution.Environment) (logging : LoggingSettings) (command : Command)
    (events : List Event) (result : Except Failure String) : Display :=
  let filter := LogFilter.choose (environment filterVariable) logging.verbose
  .log logging.format ((events ++ [command.conclusion result]).filter filter.admits)

/-- Runs a command line that has been understood. -/
def invoke (invocation : Invocation) (environment : Substitution.Environment) (disk : Disk) :
    ProgramOutcome :=
  match prepare environment disk invocation.common with
  | .error failure => ⟨1, .nothing, failure.notice, disk⟩
  | .ok (file, logging) =>
    let outcome := (invocation.body file).run disk
    { exitCode := exitCode outcome.result
      display := log environment logging invocation.command outcome.events outcome.result
      errorText := invocation.command.errorText outcome.result
      disk := outcome.store }

def run (command : Command) (arguments : List String) (environment : Substitution.Environment)
    (disk : Disk) : ProgramOutcome :=
  match Invocation.read command arguments with
  | .error .helpWanted => ⟨UsageFault.helpWanted.exitCode, .help, "", disk⟩
  | .error fault => ⟨fault.exitCode, .nothing, fault.message, disk⟩
  | .ok invocation => invoke invocation environment disk

end Program

end Rulebook
