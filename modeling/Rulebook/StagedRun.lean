import Rulebook.Action
import Rulebook.Document.Report
import Rulebook.Expansion
import Rulebook.ValueList

/-! # The two runs

Expanding resolves three value arguments, combines them and writes the document. Flattening reads a
document and writes its rules. Both have three stages, and a run stops at the first failure.
-/

namespace Rulebook

/-- A run in three stages: it gathers its input, makes something of it and delivers that. -/
structure StagedRun (α β : Type) where
  command : Command
  gather : Action α
  process : α → Action β
  /-- Writes the result and tells where. -/
  deliver : β → Action String

namespace StagedRun

def run {α β : Type} (staged : StagedRun α β) : Action String := do
  .say (.runStarted staged.command)
  .say (.stageEntered staged.command .extracting)
  let input ← staged.gather
  .say (.stageEntered staged.command .transforming)
  let result ← staged.process input
  .say (.stageEntered staged.command .loading)
  let output ← staged.deliver result
  .say (.runFinished staged.command output)
  return output

end StagedRun

/-- The values that an argument stands for. -/
def ValueList.gather (argument : String) : Action (List String) :=
  if isListFile argument then do
    .say (.listOpened argument)
    let content ← .read argument
    let values ← .ofExcept (ofFile argument content)
    .say (.listRead values.length argument)
    return values
  else return splitInline argument

/-- What is said about value lists before they are expanded. -/
def ValueLists.warnings (lists : ValueLists) : List Event :=
  (if lists.lacksPorts then [.portsLacking] else []) ++
    lists.ambiguousDestinations.map .destinationAmbiguous

/-- The rules of a report without fatal issues. -/
def Report.result (report : Report) : Except Failure (List Rule) :=
  if report.hasErrors then .error (.invalidDocument report.issues) else .ok report.rules

/-- The rules of a document text, if all its lines are sound. -/
def flatten (content : String) : Except Failure (List Rule) :=
  (Report.ofText content).result

namespace ExpandSettings

def gather (settings : ExpandSettings) : Action ValueLists := do
  let sources ← ValueList.gather settings.source
  let destinations ← ValueList.gather settings.destination
  let ports ← ValueList.gather settings.ports
  .say (.listsResolved sources.length destinations.length ports.length)
  return ⟨sources, destinations, ports⟩

def process (lists : ValueLists) : Action Document := do
  .sayAll lists.warnings
  return lists.expand

def deliver (settings : ExpandSettings) (document : Document) : Action String := do
  .say (.documentWriting document.stanzas.length settings.output)
  .write settings.output (Text.Utf8.encode document.render)
  return settings.output

def staged (settings : ExpandSettings) : StagedRun ValueLists Document where
  command := .expand
  gather := settings.gather
  process := process
  deliver := settings.deliver

end ExpandSettings

namespace FlattenSettings

def gather (settings : FlattenSettings) : Action String := do
  .say (.documentOpened settings.input)
  .read settings.input

def process (settings : FlattenSettings) (content : String) : Action (List Rule) := do
  let report := Report.ofText content
  .sayAll report.events
  if !report.warnings.isEmpty then
    .say (.linesSkipped report.warnings.length settings.input)
  if report.hasErrors then
    .say (.documentRejected settings.input)
  let rules ← .ofExcept report.result
  .say (.rulesFlattened rules.length)
  return rules

def deliver (settings : FlattenSettings) (rules : List Rule) : Action String := do
  .write settings.output (Text.Utf8.encode (ruleList rules))
  return settings.output

def staged (settings : FlattenSettings) : StagedRun String (List Rule) where
  command := .flatten
  gather := settings.gather
  process := settings.process
  deliver := settings.deliver

end FlattenSettings

end Rulebook
