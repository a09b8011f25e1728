import Rulebook.Event
import Rulebook.Text.Blank
import Rulebook.Text.Lines

/-! # Reading a document

Reading never stops early: `Report.ofText` yields the document made of the good lines together with
one issue for every bad line.
-/

namespace Rulebook

/-- What a line is, judged without its blanks. -/
inductive LineKind where
  /-- An empty line or a comment. -/
  | skipped
  | header (label : String)
  /-- Any other line, with its non-empty pieces between commas. -/
  | declaration (tokens : List String)
deriving DecidableEq, Repr

namespace LineKind

/-- A header opens with `[` and closes with `]`. -/
def isHeader (line : List Char) : Bool :=
  line.head? == some '[' && line.getLast? == some ']'

/-- The header without its leading `[` and then without its trailing `]`. -/
def label (line : List Char) : String :=
  String.ofList ((line.dropWhile (· == '[')).reverse.dropWhile (· == ']')).reverse

def tokens (line : List Char) : List String :=
  ((line.splitOn ',').filter fun token => !token.isEmpty).map String.ofList

/-- Classifies a line that has no blanks left. -/
def ofLine (line : List Char) : LineKind :=
  if line.isEmpty || line.head? == some '#' then skipped
  else if isHeader line then header (label line)
  else declaration (tokens line)

@[simp] theorem ofLine_nil : ofLine [] = skipped := rfl

@[simp] theorem ofLine_comment (line : List Char) : ofLine ('#' :: line) = skipped := by
  simp [ofLine]

end LineKind

/-- The result of reading a document, with what was said meanwhile. -/
structure Report where
  document : Document
  issues : List Issue
  events : List Event
deriving DecidableEq, Repr

/-- How far a document has been read. Destination lines go to the stanza at `current`; there is none
before the first header. -/
structure Scan where
  stanzas : Array Stanza
  current : Option (Fin stanzas.size)
  issues : Array Issue
  events : Array Event

namespace Scan

def start : Scan :=
  ⟨#[], none, #[], #[]⟩

/-- Keeps an issue, and says so at once. -/
def record (scan : Scan) (issue : Issue) : Scan :=
  { scan with issues := scan.issues.push issue, events := scan.events.push (.issueFound issue) }

/-- Opens a further stanza. One of the same source may be there already. -/
def openStanza (scan : Scan) (source : String) : Scan where
  stanzas := scan.stanzas.push ⟨source, []⟩
  current := some ⟨scan.stanzas.size, by simp⟩
  issues := scan.issues
  events := scan.events

def addLine (scan : Scan) (index : Fin scan.stanzas.size) (line : DestinationLine) : Scan where
  stanzas := scan.stanzas.modify index fun stanza => stanza.add line
  current := scan.current.map (Fin.cast (by simp))
  issues := scan.issues
  events := scan.events

/-- The source of the stanza at an index. -/
def sourceAt (scan : Scan) (index : Fin scan.stanzas.size) : String :=
  scan.stanzas[index].source

/-- Reads one more line. -/
def step (scan : Scan) (number : Nat) (line : List Char) : Scan :=
  let content := Text.squeeze line
  match LineKind.ofLine content with
  | .skipped => scan
  | .header label => scan.openStanza label
  | .declaration tokens =>
    match scan.current, tokens with
    | none, _ => scan.record (.noHeader number (String.ofList content))
    | some index, [] => scan.record (.noDestination number (scan.sourceAt index))
    | some index, [name] => scan.record (.noPorts number (scan.sourceAt index) name)
    | some index, name :: ports => scan.addLine index ⟨name, ports⟩

/-- Reads some more lines, the first of them with the number `number`. -/
def read (scan : Scan) (number : Nat) (lines : List (List Char)) : Scan :=
  (lines.zipIdx number).foldl (fun scan line => scan.step line.2 line.1) scan

def document (scan : Scan) : Document :=
  ⟨scan.stanzas.toList⟩

/-- Ends the reading with the totals. -/
def report (scan : Scan) : Report where
  document := scan.document
  issues := scan.issues.toList
  events := scan.events.toList ++
    [.documentRead scan.stanzas.size scan.document.ruleCount scan.issues.size]

end Scan

namespace Report

/-- Reads the physical lines of a document, counted from one. -/
def ofLines (lines : List (List Char)) : Report :=
  (Scan.start.read 1 lines).report

def ofText (content : String) : Report :=
  ofLines (Text.physicalLines content.toList)

def rules (report : Report) : List Rule :=
  report.document.rules

def fatalIssues (report : Report) : List Issue :=
  report.issues.filter Issue.isFatal

def warnings (report : Report) : List Issue :=
  report.issues.filter fun issue => !issue.isFatal

def hasErrors (report : Report) : Bool :=
  report.issues.any Issue.isFatal

theorem hasErrors_eq_false_iff {report : Report} :
    report.hasErrors = false ↔ report.fatalIssues = [] := by
  simp [hasErrors, fatalIssues]

end Report

end Rulebook
