import Mathlib.Data.List.Infix
import Rulebook.Proofs.Document.Passage
import Rulebook.Proofs.Text.Lines

/-!
# Documents read without a state

What a line means is told here by where it stands, not by what was read before: a header is a stanza
of the destination lines up to the next header, and a line is an issue of the last header before it.
`Report.ofText` yields just that.
-/

namespace Rulebook

namespace LineKind

def label? : LineKind → Option String
  | header label => some label
  | skipped | declaration _ => none

@[simp] theorem label?_skipped : skipped.label? = none := rfl
@[simp] theorem label?_header (label : String) : (header label).label? = some label := rfl
@[simp] theorem label?_declaration (tokens : List String) :
    (declaration tokens).label? = none := rfl

/-- A declaration of a destination with at least one port. -/
def destinationLine? : LineKind → Option DestinationLine
  | declaration (name :: port :: ports) => some ⟨name, port :: ports⟩
  | _ => none

end LineKind

namespace Outline

/-- The lines of a text, each without its blanks. -/
def lines (content : String) : List (List Char) :=
  (Text.linesOfPieces (content.toList.splitOn '\n')).map Text.squeeze

/-- The destination lines before the next header. -/
def block (kinds : List LineKind) : List DestinationLine :=
  (kinds.takeWhile fun kind ↦ kind.label?.isNone).filterMap LineKind.destinationLine?

/-- The stanza of a header, given with all that follows it. -/
def stanza? : List LineKind → Option Stanza
  | .header label :: rest => some ⟨label, block rest⟩
  | _ => none

/-- One stanza for every header, in order. -/
def stanzas (lines : List (List Char)) : List Stanza :=
  (lines.map LineKind.ofLine).tails.filterMap stanza?

/-- The label of the last header. -/
def lastLabel? (lines : List (List Char)) : Option String :=
  (lines.filterMap fun line ↦ (LineKind.ofLine line).label?).getLast?

/-- The issue of a line that stands right after the lines `before`. -/
def issue? (before : List (List Char)) (line : List Char) : Option Issue :=
  match LineKind.ofLine line with
  | .skipped | .header _ => none
  | .declaration tokens =>
    match lastLabel? before, tokens with
    | none, _ => some (.noHeader (before.length + 1) (String.ofList line))
    | some source, [] => some (.noDestination (before.length + 1) source)
    | some source, [name] => some (.noPorts (before.length + 1) source name)
    | some _, _ :: _ :: _ => none

/-- The issues of all lines, in order. -/
def issues (lines : List (List Char)) : List Issue :=
  (lines.inits.zip lines).filterMap fun place ↦ issue? place.1 place.2

/-! ## One line more -/

@[simp] theorem block_nil : block [] = [] := rfl

@[simp] theorem block_header (label : String) (rest : List LineKind) :
    block (.header label :: rest) = [] := rfl

@[simp] theorem block_skipped (rest : List LineKind) : block (.skipped :: rest) = block rest := rfl

theorem block_declaration (tokens : List String) (rest : List LineKind) :
    block (.declaration tokens :: rest) =
      (LineKind.declaration tokens).destinationLine?.toList ++ block rest := by
  rcases tokens with _ | ⟨name, _ | ⟨port, ports⟩⟩ <;> rfl

@[simp] theorem stanzas_nil : stanzas [] = [] := rfl

theorem stanzas_cons (line : List Char) (rest : List (List Char)) :
    stanzas (line :: rest) =
      (stanza? (LineKind.ofLine line :: rest.map LineKind.ofLine)).toList ++ stanzas rest := by
  rw [stanzas, List.map_cons, List.tails_cons, List.filterMap_cons]
  split
  case h_1 none => simp [none, stanzas]
  case h_2 stanza some => simp [some, stanzas]

/-- A line that is no header opens no stanza. -/
theorem stanzas_cons_of_label? {line : List Char} (h : (LineKind.ofLine line).label? = none)
    (rest : List (List Char)) : stanzas (line :: rest) = stanzas rest := by
  rw [stanzas_cons]
  cases kind : LineKind.ofLine line with
  | skipped | declaration => rfl
  | header label => simp [kind] at h

/-- There are as many stanzas as headers. -/
theorem length_stanzas (lines : List (List Char)) :
    (stanzas lines).length = lines.countP fun line ↦ (LineKind.ofLine line).label?.isSome := by
  induction lines with
  | nil => rfl
  | cons line rest ih =>
    rw [stanzas_cons, List.length_append, ih, List.countP_cons, Nat.add_comm]
    cases LineKind.ofLine line <;> rfl

theorem lastLabel?_concat (before : List (List Char)) (line : List Char) :
    lastLabel? (before ++ [line]) = (LineKind.ofLine line).label?.or (lastLabel? before) := by
  cases h : (LineKind.ofLine line).label? <;> simp [lastLabel?, List.filterMap_append, h]

/-- The issues of lines that stand after the lines `before`. -/
def issuesAfter (before lines : List (List Char)) : List Issue :=
  ((lines.inits.map (before ++ ·)).zip lines).filterMap fun place ↦ issue? place.1 place.2

theorem issuesAfter_nil (lines : List (List Char)) : issuesAfter [] lines = issues lines := by
  simp [issuesAfter, issues]

theorem issuesAfter_cons (before : List (List Char)) (line : List Char)
    (rest : List (List Char)) :
    issuesAfter before (line :: rest) =
      (issue? before line).toList ++ issuesAfter (before ++ [line]) rest := by
  have inits : (line :: rest).inits.map (before ++ ·) =
      before :: rest.inits.map (before ++ [line] ++ ·) := by
    simp [Function.comp_def]
  rw [issuesAfter, inits, List.zip_cons_cons, List.filterMap_cons]
  cases issue? before line <;> rfl

end Outline

namespace Passage

open Outline

/-- Under an open stanza, the lines up to the next header continue it. -/
theorem continued_ofLines {source : Option String} (isOpen : source.isSome) (number : Nat)
    (lines : List (List Char)) :
    (ofLines source number lines).continued =
      block ((lines.map Text.squeeze).map LineKind.ofLine) := by
  induction source, number, lines using ofLines_induction with
  | nil => rfl
  | skipped source number line rest kind ih =>
    rw [ofLines_skipped kind, ih isOpen, List.map_cons, List.map_cons, kind, block_skipped]
  | header source number line rest label kind ih =>
    rw [ofLines_header kind, List.map_cons, List.map_cons, kind, block_header]
    rfl
  | noHeader => cases isOpen
  | noDestination source number line rest kind ih =>
    rw [ofLines_noDestination kind, List.map_cons, List.map_cons, kind, block_declaration]
    exact ih rfl
  | noPorts source number line rest name kind ih =>
    rw [ofLines_noPorts kind, List.map_cons, List.map_cons, kind, block_declaration]
    exact ih rfl
  | destination source number line rest name port ports kind ih =>
    rw [ofLines_destination kind, List.map_cons, List.map_cons, kind, block_declaration,
      destination, ih rfl]
    rfl

/-- Every header among the lines becomes a stanza of the lines that follow it. -/
theorem stanzas_ofLines (source : Option String) (number : Nat) (lines : List (List Char)) :
    (ofLines source number lines).stanzas = Outline.stanzas (lines.map Text.squeeze) := by
  induction source, number, lines using ofLines_induction with
  | nil => rfl
  | skipped source number line rest kind ih =>
    rw [ofLines_skipped kind, ih, List.map_cons, stanzas_cons_of_label? (by rw [kind]; rfl)]
  | header source number line rest label kind ih =>
    rw [ofLines_header kind, List.map_cons, stanzas_cons, kind, stanza, ih, continued_ofLines rfl]
    rfl
  | noHeader number line rest tokens kind ih =>
    rw [ofLines_noHeader kind, List.map_cons, stanzas_cons_of_label? (by rw [kind]; rfl)]
    exact ih
  | noDestination source number line rest kind ih =>
    rw [ofLines_noDestination kind, List.map_cons, stanzas_cons_of_label? (by rw [kind]; rfl)]
    exact ih
  | noPorts source number line rest name kind ih =>
    rw [ofLines_noPorts kind, List.map_cons, stanzas_cons_of_label? (by rw [kind]; rfl)]
    exact ih
  | destination source number line rest name port ports kind ih =>
    rw [ofLines_destination kind, List.map_cons, stanzas_cons_of_label? (by rw [kind]; rfl)]
    exact ih

/-- The issues found among lines are those that their places tell, if the lines before have the
header `source` last. -/
theorem issues_ofLines (before lines : List (List Char)) :
    (ofLines (lastLabel? before) (before.length + 1) lines).issues =
      issuesAfter before (lines.map Text.squeeze) := by
  induction lines generalizing before with
  | nil => rfl
  | cons line rest ih =>
    have next := ih (before ++ [Text.squeeze line])
    rw [lastLabel?_concat, List.length_append, List.length_singleton] at next
    rw [List.map_cons, issuesAfter_cons, ← next]
    cases kind : LineKind.ofLine (Text.squeeze line) with
    | skipped => simp [ofLines_skipped kind, issue?, kind]
    | header label => simp [ofLines_header kind, issue?, kind, stanza]
    | declaration tokens =>
      cases last : lastLabel? before with
      | none => simp [ofLines_noHeader kind, issue?, kind, last, issue]
      | some source =>
        rcases tokens with _ | ⟨name, _ | ⟨port, ports⟩⟩
        · simp [ofLines_noDestination kind, issue?, kind, last, issue]
        · simp [ofLines_noPorts kind, issue?, kind, last, issue]
        · simp [ofLines_destination kind, issue?, kind, last, destination]

end Passage

namespace Outline

/-- A line that keeps a document from being flattened: a declaration that precedes every header or
has a single token. -/
def IsFatal (before : List (List Char)) (line : List Char) : Prop :=
  ∃ tokens, LineKind.ofLine line = .declaration tokens ∧
    ((∀ other ∈ before, ∀ label, LineKind.ofLine other ≠ .header label) ∨ tokens.length = 1)

def HasFatalLine (lines : List (List Char)) : Prop :=
  ∃ before line after, lines = before ++ line :: after ∧ IsFatal before line

theorem lastLabel?_eq_none_iff {lines : List (List Char)} :
    lastLabel? lines = none ↔ ∀ line ∈ lines, ∀ label, LineKind.ofLine line ≠ .header label := by
  rw [lastLabel?, List.getLast?_eq_none_iff, List.filterMap_eq_nil_iff]
  refine forall₂_congr fun line _ ↦ ?_
  cases LineKind.ofLine line <;> simp

theorem exists_fatal_issue?_iff {before : List (List Char)} {line : List Char} :
    (∃ issue, issue? before line = some issue ∧ issue.isFatal = true) ↔ IsFatal before line := by
  rw [IsFatal, ← lastLabel?_eq_none_iff]
  cases kind : LineKind.ofLine line with
  | skipped | header => simp [issue?, kind]
  | declaration tokens =>
    cases last : lastLabel? before with
    | none => simp [issue?, kind, last, Issue.isFatal]
    | some source =>
      rcases tokens with _ | ⟨name, _ | ⟨port, ports⟩⟩ <;> simp [issue?, kind, last, Issue.isFatal]

theorem mem_zip_inits_iff {lines before : List (List Char)} {line : List Char} :
    (before, line) ∈ lines.inits.zip lines ↔ ∃ after, lines = before ++ line :: after := by
  induction lines generalizing before with
  | nil => simp
  | cons head rest ih =>
    rw [List.inits_cons, List.zip_cons_cons, List.mem_cons, List.zip_map_left, List.mem_map]
    cases before with
    | nil => simp [eq_comm]
    | cons first before =>
      simp only [Prod.mk.injEq, reduceCtorEq, false_and, Prod.exists, Prod.map_apply, id_eq,
        List.cons.injEq, false_or, List.cons_append]
      constructor
      · rintro ⟨a, b, mem, ⟨rfl, rfl⟩, rfl⟩
        obtain ⟨after, rfl⟩ := ih.1 mem
        exact ⟨after, rfl, rfl⟩
      · rintro ⟨after, rfl, rfl⟩
        exact ⟨before, line, ih.2 ⟨after, rfl⟩, ⟨rfl, rfl⟩, rfl⟩

/-- An issue is fatal exactly if its line is. -/
theorem any_isFatal_issues_iff (lines : List (List Char)) :
    (issues lines).any Issue.isFatal = true ↔ HasFatalLine lines := by
  simp only [HasFatalLine, ← exists_fatal_issue?_iff, List.any_eq_true, issues,
    List.mem_filterMap, Prod.exists, mem_zip_inits_iff]
  constructor
  · rintro ⟨issue, ⟨before, line, ⟨after, split⟩, found⟩, fatal⟩
    exact ⟨before, line, after, split, issue, found, fatal⟩
  · rintro ⟨before, line, after, split, issue, found, fatal⟩
    exact ⟨issue, ⟨before, line, ⟨after, split⟩, found⟩, fatal⟩

end Outline

namespace Report

variable (content : String)

theorem stanzas_ofText :
    (ofText content).document.stanzas = Outline.stanzas (Outline.lines content) := by
  rw [ofText, stanzas_ofLines, Passage.stanzas_ofLines, Text.physicalLines_eq]
  rfl

theorem issues_ofText : (ofText content).issues = Outline.issues (Outline.lines content) := by
  rw [ofText, issues_ofLines, Text.physicalLines_eq]
  exact (Passage.issues_ofLines [] _).trans (Outline.issuesAfter_nil _)

theorem hasErrors_ofText_iff :
    (ofText content).hasErrors = true ↔ Outline.HasFatalLine (Outline.lines content) := by
  rw [hasErrors, issues_ofText, Outline.any_isFatal_issues_iff]

/-- The scan finds what the places of the lines tell: the stanzas of the headers and the issues of
the remaining declarations, each with its line number. -/
theorem ofText_eq_outline :
    (ofText content).document = ⟨Outline.stanzas (Outline.lines content)⟩ ∧
      (ofText content).issues = Outline.issues (Outline.lines content) :=
  ⟨congrArg Document.mk (stanzas_ofText content), issues_ofText content⟩

end Report

end Rulebook
