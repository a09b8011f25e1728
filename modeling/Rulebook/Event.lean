import Rulebook.Settings

/-! # What a run reports while it goes on -/

namespace Rulebook

inductive Level where
  | error | warn | info | debug | trace
deriving DecidableEq, Repr

namespace Level

def name : Level → String
  | error => "ERROR"
  | warn => "WARN"
  | info => "INFO"
  | debug => "DEBUG"
  | trace => "TRACE"

/-- Levels by their number: the higher, the more is said. -/
def verbosity : Level → Nat
  | error => 1
  | warn => 2
  | info => 3
  | debug => 4
  | trace => 5

end Level

inductive Stage where
  | extracting | transforming | loading
deriving DecidableEq, Repr

def Stage.name : Stage → String
  | extracting => "extracting"
  | transforming => "transforming"
  | loading => "loading"

inductive Event where
  | runStarted (command : Command)
  | stageEntered (command : Command) (stage : Stage)
  | runFinished (command : Command) (output : String)
  | listOpened (path : String)
  | listRead (count : Nat) (path : String)
  | listsResolved (sources destinations ports : Nat)
  | portsLacking
  | destinationAmbiguous (destination : String)
  | documentWriting (stanzas : Nat) (path : String)
  | documentOpened (path : String)
  | issueFound (issue : Issue)
  | documentRead (stanzas rules issues : Nat)
  | linesSkipped (count : Nat) (path : String)
  | documentRejected (path : String)
  | rulesFlattened (count : Nat)
  /-- The command has its arguments and begins. -/
  | optionsTaken (command : Command)
  | expandConfigured (settings : ExpandSettings)
  | flattenConfigured (settings : FlattenSettings)
  | commandFailed (command : Command) (failure : Failure)
  | commandSucceeded (command : Command) (output : String)
deriving DecidableEq, Repr

namespace Event

def level : Event → Level
  | issueFound issue => if issue.isFatal then .error else .warn
  | documentRejected _ | commandFailed .. => .error
  | portsLacking | destinationAmbiguous _ | linesSkipped .. => .warn
  | runStarted _ | runFinished .. | listsResolved .. | documentWriting .. | documentOpened _
  | rulesFlattened _ | optionsTaken _ | commandSucceeded .. => .info
  | stageEntered .. | listOpened _ | listRead .. | documentRead .. | expandConfigured _
  | flattenConfigured _ => .debug

def message : Event → String
  | runStarted command => s!"Starting {command.name} run"
  | stageEntered command stage => s!"[{command.name}] {stage.name}"
  | runFinished command output => s!"{command.name} run finished, output written to '{output}'"
  | listOpened path => s!"Reading list file '{path}'"
  | listRead count path => s!"Read {count} value(s) from '{path}'"
  | listsResolved sources destinations ports =>
    s!"Resolved {sources} source(s), {destinations} destination(s), {ports} port(s)"
  | portsLacking => "No ports given, destination lines will be omitted"
  | destinationAmbiguous destination =>
    s!"Destination '{destination}' will not flatten as written (comment, empty or whitespace)"
  | documentWriting stanzas path => s!"Writing {stanzas} stanza(s) to '{path}'"
  | documentOpened path => s!"Interpreting config file '{path}'"
  | issueFound issue => issue.message
  | documentRead stanzas rules issues =>
    s!"Parsed {stanzas} stanza(s), {rules} rule(s), {issues} issue(s)"
  | linesSkipped count path => s!"Skipped {count} line(s) without a destination in '{path}'"
  | documentRejected path => s!"'{path}' has structural errors, not writing any rules"
  | rulesFlattened count => s!"Flattened {count} rule(s)"
  | optionsTaken _ => "Processing command line options"
  | expandConfigured settings => "Expand settings: " ++ settings.describe
  | flattenConfigured settings => "Flatten settings: " ++ settings.describe
  | commandFailed command failure =>
    s!"{command.name} failed: {failure.message} (Category: {failure.category.name})"
  | commandSucceeded .expand output => s!"Successfully wrote config to '{output}'"
  | commandSucceeded .flatten output => s!"Config written to '{output}'"

/-- The module that an event comes from, which is how a log filter names it. A command that speaks
for itself is one of its own. -/
def target : Event → String
  | runStarted _ | stageEntered .. | runFinished .. => "stanza_rules::core::engine"
  | listsResolved .. | documentWriting .. | documentOpened _ | linesSkipped .. | documentRejected _
  | rulesFlattened _ => "stanza_rules::core::pipeline"
  | listOpened _ | listRead .. => "stanza_rules::core::resolver"
  | portsLacking | destinationAmbiguous _ => "stanza_rules::core::expander"
  | issueFound _ | documentRead .. => "stanza_rules::core::flattener"
  | optionsTaken command | commandFailed command _ | commandSucceeded command _ => command.name
  | expandConfigured _ => Command.expand.name
  | flattenConfigured _ => Command.flatten.name

end Event

end Rulebook
