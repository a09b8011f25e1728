import Mathlib.Data.List.Induction
import Mathlib.Data.List.ModifyLast
import Rulebook.Document.Report

/-!
# What a passage of a document contributes

A scan carries the stanzas read so far through the lines.  A `Passage` is what some lines contribute
by themselves, once it is known which stanza is open before them, and it is read by recursion on
the lines.  `Scan.read_passage` says that the two agree: reading lines leaves everything read
before as it was, except that the last stanza receives the lines that continue it.

The agreement rests on `Scan.AtLast`: the open stanza is always the last one.
-/

namespace Rulebook

/-- What some lines contribute: destination lines for the stanza that is open before them, stanzas
of their own, and issues. -/
structure Passage where
  continued : List DestinationLine
  stanzas : List Stanza
  issues : List Issue
deriving DecidableEq, Repr

namespace Passage

def empty : Passage :=
  ⟨[], [], []⟩

def destination (line : DestinationLine) (passage : Passage) : Passage :=
  { passage with continued := line :: passage.continued }

def stanza (source : String) (passage : Passage) : Passage :=
  { passage with continued := [], stanzas := ⟨source, passage.continued⟩ :: passage.stanzas }

def issue (issue : Issue) (passage : Passage) : Passage :=
  { passage with issues := issue :: passage.issues }

/-- Reads the lines from number `number` on, under the stanza of `source` if one is open. -/
def ofLines (source : Option String) (number : Nat) : List (List Char) → Passage
  | [] => empty
  | line :: rest =>
    let content := Text.squeeze line
    match LineKind.ofLine content, source with
    | .skipped, _ => ofLines source (number + 1) rest
    | .header label, _ => stanza label (ofLines (some label) (number + 1) rest)
    | .declaration _, none =>
      issue (.noHeader number (String.ofList content)) (ofLines source (number + 1) rest)
    | .declaration [], some open_ =>
      issue (.noDestination number open_) (ofLines source (number + 1) rest)
    | .declaration [name], some open_ =>
      issue (.noPorts number open_ name) (ofLines source (number + 1) rest)
    | .declaration (name :: ports), some _ =>
      destination ⟨name, ports⟩ (ofLines source (number + 1) rest)

/-! One equation for each way a line can end. -/

variable {number : Nat} {line : List Char} {rest : List (List Char)}

theorem ofLines_skipped {source : Option String}
    (h : LineKind.ofLine (Text.squeeze line) = .skipped) :
    ofLines source number (line :: rest) = ofLines source (number + 1) rest := by
  simp [ofLines, h]

theorem ofLines_header {source : Option String} {label : String}
    (h : LineKind.ofLine (Text.squeeze line) = .header label) :
    ofLines source number (line :: rest) =
      (ofLines (some label) (number + 1) rest).stanza label := by
  simp [ofLines, h]

theorem ofLines_noHeader {tokens : List String}
    (h : LineKind.ofLine (Text.squeeze line) = .declaration tokens) :
    ofLines none number (line :: rest) =
      (ofLines none (number + 1) rest).issue
        (.noHeader number (String.ofList (Text.squeeze line))) := by
  simp [ofLines, h]

theorem ofLines_noDestination {source : String}
    (h : LineKind.ofLine (Text.squeeze line) = .declaration []) :
    ofLines (some source) number (line :: rest) =
      (ofLines (some source) (number + 1) rest).issue (.noDestination number source) := by
  simp [ofLines, h]

theorem ofLines_noPorts {source name : String}
    (h : LineKind.ofLine (Text.squeeze line) = .declaration [name]) :
    ofLines (some source) number (line :: rest) =
      (ofLines (some source) (number + 1) rest).issue (.noPorts number source name) := by
  simp [ofLines, h]

theorem ofLines_destination {source name port : String} {ports : List String}
    (h : LineKind.ofLine (Text.squeeze line) = .declaration (name :: port :: ports)) :
    ofLines (some source) number (line :: rest) =
      (ofLines (some source) (number + 1) rest).destination ⟨name, port :: ports⟩ := by
  simp [ofLines, h]

/-- Induction on the lines, by the way in which the first of them ends. -/
@[elab_as_elim]
theorem ofLines_induction {motive : Option String → Nat → List (List Char) → Prop}
    (nil : ∀ source number, motive source number [])
    (skipped : ∀ source number line rest, LineKind.ofLine (Text.squeeze line) = .skipped →
      motive source (number + 1) rest → motive source number (line :: rest))
    (header : ∀ source number line rest label,
      LineKind.ofLine (Text.squeeze line) = .header label →
      motive (some label) (number + 1) rest → motive source number (line :: rest))
    (noHeader : ∀ number line rest tokens,
      LineKind.ofLine (Text.squeeze line) = .declaration tokens →
      motive none (number + 1) rest → motive none number (line :: rest))
    (noDestination : ∀ source number line rest,
      LineKind.ofLine (Text.squeeze line) = .declaration [] →
      motive (some source) (number + 1) rest → motive (some source) number (line :: rest))
    (noPorts : ∀ source number line rest name,
      LineKind.ofLine (Text.squeeze line) = .declaration [name] →
      motive (some source) (number + 1) rest → motive (some source) number (line :: rest))
    (destination : ∀ source number line rest name port ports,
      LineKind.ofLine (Text.squeeze line) = .declaration (name :: port :: ports) →
      motive (some source) (number + 1) rest → motive (some source) number (line :: rest))
    (source : Option String) (number : Nat) (lines : List (List Char)) :
    motive source number lines := by
  induction lines generalizing source number with
  | nil => exact nil source number
  | cons line rest ih =>
    cases kind : LineKind.ofLine (Text.squeeze line) with
    | skipped => exact skipped _ _ _ _ kind (ih ..)
    | header label => exact header _ _ _ _ _ kind (ih ..)
    | declaration tokens =>
      cases source with
      | none => exact noHeader _ _ _ _ kind (ih ..)
      | some source =>
        rcases tokens with _ | ⟨name, _ | ⟨port, ports⟩⟩
        · exact noDestination _ _ _ _ kind (ih ..)
        · exact noPorts _ _ _ _ _ kind (ih ..)
        · exact destination _ _ _ _ _ _ _ kind (ih ..)

end Passage

/-- The stanza with some more lines at its end. -/
def Stanza.addAll (stanza : Stanza) (lines : List DestinationLine) : Stanza :=
  { stanza with destinations := stanza.destinations ++ lines }

@[simp] theorem Stanza.addAll_nil (stanza : Stanza) : stanza.addAll [] = stanza := by
  simp [addAll]

/-- The stanzas with some more lines at the end of the last one, if there is one. -/
def resume (stanzas : List Stanza) (lines : List DestinationLine) : List Stanza :=
  stanzas.modifyLast fun stanza => stanza.addAll lines

@[simp] theorem resume_concat (stanzas : List Stanza) (stanza : Stanza)
    (lines : List DestinationLine) :
    resume (stanzas ++ [stanza]) lines = stanzas ++ [stanza.addAll lines] :=
  List.modifyLast_concat ..

@[simp] theorem resume_empty (lines : List DestinationLine) : resume [] lines = [] := rfl

@[simp] theorem resume_nil (stanzas : List Stanza) : resume stanzas [] = stanzas := by
  induction stanzas using List.reverseRecOn with
  | nil => rfl
  | append_singleton stanzas stanza _ => simp

theorem resume_cons (stanzas : List Stanza) (line : DestinationLine)
    (lines : List DestinationLine) :
    resume (resume stanzas [line]) lines = resume stanzas (line :: lines) := by
  induction stanzas using List.reverseRecOn with
  | nil => rfl
  | append_singleton stanzas stanza _ => simp [Stanza.addAll]

namespace Scan

/-- The source of the open stanza. -/
def source? (scan : Scan) : Option String :=
  scan.current.map scan.sourceAt

/-- The open stanza is the last one, and there is one as soon as there are stanzas. -/
def AtLast (scan : Scan) : Prop :=
  ∀ index : Nat, scan.current.map Fin.val = some index ↔ index + 1 = scan.stanzas.size

theorem source?_eq_none_iff {scan : Scan} : scan.source? = none ↔ scan.current = none := by
  simp [source?]

@[simp] theorem stanzas_start : start.stanzas = #[] := rfl
@[simp] theorem issues_start : start.issues = #[] := rfl
@[simp] theorem events_start : start.events = #[] := rfl
@[simp] theorem source?_start : start.source? = none := rfl

theorem atLast_start : start.AtLast := by
  intro index
  simp [start]

/-! ## The three ways to change a scan -/

@[simp] theorem stanzas_record (scan : Scan) (issue : Issue) :
    (scan.record issue).stanzas = scan.stanzas := rfl

@[simp] theorem issues_record (scan : Scan) (issue : Issue) :
    (scan.record issue).issues.toList = scan.issues.toList ++ [issue] := by
  simp [record]

@[simp] theorem events_record (scan : Scan) (issue : Issue) :
    (scan.record issue).events.toList = scan.events.toList ++ [.issueFound issue] := by
  simp [record]

@[simp] theorem source?_record (scan : Scan) (issue : Issue) :
    (scan.record issue).source? = scan.source? := rfl

theorem AtLast.record {scan : Scan} (h : scan.AtLast) (issue : Issue) :
    (scan.record issue).AtLast := h

@[simp] theorem stanzas_openStanza (scan : Scan) (source : String) :
    (scan.openStanza source).stanzas.toList = scan.stanzas.toList ++ [⟨source, []⟩] := by
  simp [openStanza]

@[simp] theorem issues_openStanza (scan : Scan) (source : String) :
    (scan.openStanza source).issues = scan.issues := rfl

@[simp] theorem events_openStanza (scan : Scan) (source : String) :
    (scan.openStanza source).events = scan.events := rfl

@[simp] theorem source?_openStanza (scan : Scan) (source : String) :
    (scan.openStanza source).source? = some source := by
  simp [source?, sourceAt, openStanza]

theorem atLast_openStanza (scan : Scan) (source : String) : (scan.openStanza source).AtLast := by
  intro index
  simp [openStanza, eq_comm]

variable {scan : Scan} {index : Fin scan.stanzas.size}

@[simp] theorem issues_addLine (line : DestinationLine) :
    (scan.addLine index line).issues = scan.issues := rfl

@[simp] theorem events_addLine (line : DestinationLine) :
    (scan.addLine index line).events = scan.events := rfl

@[simp] theorem source?_addLine (line : DestinationLine) :
    (scan.addLine index line).source? = scan.source? := by
  rcases h : scan.current with _ | current
  · simp [source?, addLine, h]
  · simp only [source?, sourceAt, addLine, h, Option.map_some, Option.some.injEq, Fin.getElem_fin,
      Fin.val_cast, Array.getElem_modify]
    split <;> rfl

theorem AtLast.addLine (h : scan.AtLast) (line : DestinationLine) :
    (scan.addLine index line).AtLast := by
  intro other
  simpa [Scan.addLine, Function.comp_def] using h other

/-- Under the invariant, the line goes to the last stanza. -/
theorem stanzas_addLine (h : scan.AtLast) (isOpen : scan.current = some index)
    (line : DestinationLine) :
    (scan.addLine index line).stanzas.toList = resume scan.stanzas.toList [line] := by
  have last : (index : Nat) + 1 = scan.stanzas.toList.length := by
    simpa using (h index).1 (by simp [isOpen])
  rw [Scan.addLine, Array.toList_modify]
  rcases List.eq_nil_or_concat scan.stanzas.toList with none | ⟨closed, stanza, some⟩
  · simp [none] at last
  · rw [List.concat_eq_append] at some
    -- The invariant puts the open stanza right behind all the closed ones.
    have here : (index : Nat) = closed.length := by simpa [some] using last
    rw [some, resume_concat, here]
    simp [List.modify_eq_take_cons_drop, Stanza.add, Stanza.addAll]

/-! ## Reading a passage -/

/-- Between `before` and `after`, exactly `passage` has been read. -/
structure Reads (before : Scan) (passage : Passage) (after : Scan) : Prop where
  stanzas : after.stanzas.toList =
    resume before.stanzas.toList passage.continued ++ passage.stanzas
  issues : after.issues.toList = before.issues.toList ++ passage.issues
  events : after.events.toList = before.events.toList ++ passage.issues.map .issueFound

namespace Reads

variable {scan after : Scan} {passage : Passage}

theorem refl (scan : Scan) : scan.Reads .empty scan := by
  constructor <;> simp [Passage.empty]

theorem ofRecord {issue : Issue} (h : (scan.record issue).Reads passage after) :
    scan.Reads (passage.issue issue) after where
  stanzas := h.stanzas
  issues := by simpa [Passage.issue] using h.issues
  events := by simpa [Passage.issue] using h.events

theorem ofOpenStanza {source : String} (h : (scan.openStanza source).Reads passage after) :
    scan.Reads (passage.stanza source) after where
  stanzas := by simpa [Passage.stanza, Stanza.addAll] using h.stanzas
  issues := h.issues
  events := h.events

theorem ofAddLine {index : Fin scan.stanzas.size} {line : DestinationLine} (last : scan.AtLast)
    (isOpen : scan.current = some index) (h : (scan.addLine index line).Reads passage after) :
    scan.Reads (passage.destination line) after where
  stanzas := by
    rw [h.stanzas, stanzas_addLine last isOpen, resume_cons]
    rfl
  issues := h.issues
  events := h.events

end Reads

theorem read_cons (scan : Scan) (number : Nat) (line : List Char) (rest : List (List Char)) :
    scan.read number (line :: rest) = (scan.step number line).read (number + 1) rest := rfl

section Step

variable {number : Nat} {line : List Char}

theorem step_skipped (scan : Scan) (h : LineKind.ofLine (Text.squeeze line) = .skipped) :
    scan.step number line = scan := by
  simp [step, h]

theorem step_header (scan : Scan) {label : String}
    (h : LineKind.ofLine (Text.squeeze line) = .header label) :
    scan.step number line = scan.openStanza label := by
  simp [step, h]

theorem step_noHeader {tokens : List String}
    (h : LineKind.ofLine (Text.squeeze line) = .declaration tokens) (closed : scan.current = none) :
    scan.step number line =
      scan.record (.noHeader number (String.ofList (Text.squeeze line))) := by
  simp [step, h, closed]

theorem step_noDestination (h : LineKind.ofLine (Text.squeeze line) = .declaration [])
    (isOpen : scan.current = some index) :
    scan.step number line = scan.record (.noDestination number (scan.sourceAt index)) := by
  simp [step, h, isOpen]

theorem step_noPorts {name : String} (h : LineKind.ofLine (Text.squeeze line) = .declaration [name])
    (isOpen : scan.current = some index) :
    scan.step number line = scan.record (.noPorts number (scan.sourceAt index) name) := by
  simp [step, h, isOpen]

theorem step_destination {name port : String} {ports : List String}
    (h : LineKind.ofLine (Text.squeeze line) = .declaration (name :: port :: ports))
    (isOpen : scan.current = some index) :
    scan.step number line = scan.addLine index ⟨name, port :: ports⟩ := by
  simp [step, h, isOpen]

/-- A line keeps the open stanza last. -/
theorem AtLast.step (h : scan.AtLast) (number : Nat) (line : List Char) :
    (scan.step number line).AtLast := by
  cases kind : LineKind.ofLine (Text.squeeze line) with
  | skipped => rwa [step_skipped scan kind]
  | header label =>
    rw [step_header scan kind]
    exact atLast_openStanza scan label
  | declaration tokens =>
    cases current : scan.current with
    | none =>
      rw [step_noHeader kind current]
      exact h.record _
    | some index =>
      rcases tokens with _ | ⟨name, _ | ⟨port, ports⟩⟩
      · rw [step_noDestination kind current]
        exact h.record _
      · rw [step_noPorts kind current]
        exact h.record _
      · rw [step_destination kind current]
        exact h.addLine _

end Step

theorem AtLast.read (h : scan.AtLast) (number : Nat) (lines : List (List Char)) :
    (scan.read number lines).AtLast := by
  induction lines generalizing scan number with
  | nil => exact h
  | cons line rest ih => exact ih (h.step number line) (number + 1)

/-- Reading lines adds what the passage of these lines contributes. -/
theorem read_passage (h : scan.AtLast) (number : Nat) (lines : List (List Char)) :
    scan.Reads (Passage.ofLines scan.source? number lines) (scan.read number lines) := by
  induction lines generalizing scan number with
  | nil => exact .refl scan
  | cons line rest ih =>
    -- The passage depends on what was read before only by the source of the open stanza.
    have next := ih (h.step number line) (number + 1)
    rw [read_cons]
    cases kind : LineKind.ofLine (Text.squeeze line) with
    | skipped =>
      rw [step_skipped scan kind] at next ⊢
      rwa [Passage.ofLines_skipped kind]
    | header label =>
      rw [step_header scan kind] at next ⊢
      rw [source?_openStanza] at next
      rw [Passage.ofLines_header kind]
      exact next.ofOpenStanza
    | declaration tokens =>
      cases current : scan.current with
      | none =>
        have source : scan.source? = none := source?_eq_none_iff.2 current
        rw [step_noHeader kind current] at next ⊢
        rw [source?_record, source] at next
        rw [source, Passage.ofLines_noHeader kind]
        exact next.ofRecord
      | some index =>
        have source : scan.source? = some (scan.sourceAt index) := by simp [source?, current]
        rw [source]
        rcases tokens with _ | ⟨name, _ | ⟨port, ports⟩⟩
        · rw [step_noDestination kind current] at next ⊢
          rw [source?_record, source] at next
          rw [Passage.ofLines_noDestination kind]
          exact next.ofRecord
        · rw [step_noPorts kind current] at next ⊢
          rw [source?_record, source] at next
          rw [Passage.ofLines_noPorts kind]
          exact next.ofRecord
        · rw [step_destination kind current] at next ⊢
          rw [source?_addLine, source] at next
          rw [Passage.ofLines_destination kind]
          exact next.ofAddLine h current

end Scan

namespace Report

variable (lines : List (List Char))

theorem stanzas_ofLines :
    (ofLines lines).document.stanzas = (Passage.ofLines none 1 lines).stanzas := by
  simpa [ofLines, Scan.report, Scan.document] using
    (Scan.read_passage Scan.atLast_start 1 lines).stanzas

theorem document_ofLines : (ofLines lines).document = ⟨(Passage.ofLines none 1 lines).stanzas⟩ :=
  congrArg Document.mk (stanzas_ofLines lines)

theorem issues_ofLines : (ofLines lines).issues = (Passage.ofLines none 1 lines).issues := by
  simpa [ofLines, Scan.report] using (Scan.read_passage Scan.atLast_start 1 lines).issues

/-- Every issue is said when it is found, and the totals are said in the end. -/
theorem events_ofLines :
    (ofLines lines).events = (ofLines lines).issues.map .issueFound ++
      [.documentRead (ofLines lines).document.stanzas.length
        (ofLines lines).document.ruleCount (ofLines lines).issues.length] := by
  have reads := Scan.read_passage Scan.atLast_start 1 lines
  simp [ofLines, Scan.report, Scan.document, reads.events, reads.issues, ← Array.length_toList]

end Report

end Rulebook
