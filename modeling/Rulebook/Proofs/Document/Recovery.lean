import Mathlib.Data.Finset.Card
import Mathlib.Data.List.Dedup
import Rulebook.Proofs.Document.Concatenation
import Rulebook.Proofs.Document.Layout
import Rulebook.Proofs.Document.RuleList

/-!
# Taking bad lines out

A line with an issue changes nothing in what is read of the other lines.  So the lines that a report
names can be taken out of a text, all of them or some: the document stays the same, and so do the
issues of the lines that are left, which only move up.  Without the fatal ones, the text is
flattened to the rules that were read in spite of them.
-/

namespace Rulebook

namespace Text

/-- The lines, counted from `number`, less those with a removed number. -/
def keptLines (removed : Finset Nat) (number : Nat) (lines : List (List Char)) :
    List (List Char) :=
  ((lines.zipIdx number).filter fun place ↦ place.2 ∉ removed).map Prod.fst

/-- The number of a line once the removed lines before it are gone. -/
def numberWithout (removed : Finset Nat) (number : Nat) : Nat :=
  number - (removed.filter (· < number)).card

/-- The lines of a text less the removed ones, joined by line feeds. -/
def withoutLines (removed : Finset Nat) (content : String) : String :=
  String.ofList (['\n'].intercalate (keptLines removed 1 (physicalLines content.toList)))

section Kept

variable {removed : Finset Nat} {number : Nat}

theorem keptLines_cons_of_mem (h : number ∈ removed) (line : List Char)
    (rest : List (List Char)) :
    keptLines removed number (line :: rest) = keptLines removed (number + 1) rest := by
  simp [keptLines, h]

theorem keptLines_cons_of_notMem (h : number ∉ removed) (line : List Char)
    (rest : List (List Char)) :
    keptLines removed number (line :: rest) = line :: keptLines removed (number + 1) rest := by
  simp [keptLines, h]

theorem card_filter_lt_le (removed : Finset Nat) (number : Nat) :
    (removed.filter (· < number)).card ≤ number := by
  have bounded : removed.filter (· < number) ⊆ Finset.range number := fun line mem ↦
    Finset.mem_range.2 (Finset.mem_filter.1 mem).2
  simpa using Finset.card_le_card bounded

theorem numberWithout_succ_of_mem (h : number ∈ removed) :
    numberWithout removed (number + 1) = numberWithout removed number := by
  have counted : removed.filter (· < number + 1) = insert number (removed.filter (· < number)) := by
    ext line
    rw [Finset.mem_insert, Finset.mem_filter, Finset.mem_filter, Nat.lt_succ_iff_lt_or_eq]
    constructor
    · rintro ⟨mem, less | rfl⟩
      · exact .inr ⟨mem, less⟩
      · exact .inl rfl
    · rintro (rfl | ⟨mem, less⟩)
      · exact ⟨h, .inr rfl⟩
      · exact ⟨mem, .inl less⟩
  rw [numberWithout, counted, Finset.card_insert_of_notMem (by simp), Nat.add_sub_add_right]
  rfl

theorem numberWithout_succ_of_notMem (h : number ∉ removed) :
    numberWithout removed (number + 1) = numberWithout removed number + 1 := by
  have counted : removed.filter (· < number + 1) = removed.filter (· < number) := by
    refine Finset.filter_congr fun line mem ↦ ?_
    have other : line ≠ number := fun same ↦ h (same ▸ mem)
    omega
  have bounded := card_filter_lt_le removed number
  rw [numberWithout, numberWithout, counted]
  omega

end Kept

theorem mem_of_mem_keptLines {removed : Finset Nat} {number : Nat} {lines : List (List Char)}
    {line : List Char} (h : line ∈ keptLines removed number lines) : line ∈ lines := by
  obtain ⟨place, kept, rfl⟩ := List.mem_map.1 h
  exact List.fst_mem_of_mem_zipIdx (List.mem_filter.1 kept).1

end Text

namespace Passage

variable {removed : Finset Nat} {source : Option String} {number : Nat}

/-! ## Lines joined again -/

theorem ofLines_cons_congr {line other : List Char} {rest more : List (List Char)}
    (first : Text.squeeze line = Text.squeeze other)
    (later : ∀ source number, ofLines source number rest = ofLines source number more) :
    ofLines source number (line :: rest) = ofLines source number (other :: more) := by
  simp only [ofLines, first, later]

/-- Carriage returns and a last line without characters show nowhere. -/
theorem ofLines_linesOfPieces (source : Option String) (number : Nat)
    (pieces : List (List Char)) :
    ofLines source number (Text.linesOfPieces pieces) = ofLines source number pieces := by
  fun_induction Text.linesOfPieces pieces generalizing source number with
  | case1 | case2 | case3 => rfl
  | case4 piece rest _ ih => exact ofLines_cons_congr (Text.squeeze_dropReturn piece) ih

theorem ofLines_intercalate {lines : List (List Char)} (newlineFree : ∀ line ∈ lines, '\n' ∉ line) :
    ofLines source number (Text.physicalLines (['\n'].intercalate lines)) =
      ofLines source number lines := by
  rw [Text.physicalLines_eq, ofLines_linesOfPieces]
  by_cases empty : lines = []
  · subst empty
    rfl
  · rw [List.splitOn_intercalate '\n' newlineFree empty]

/-! ## Lines without issues stay -/

/-- The passage less the issues of the removed lines. -/
def without (removed : Finset Nat) (passage : Passage) : Passage :=
  { passage with
    issues := (passage.issues.filter fun issue ↦ issue.line ∉ removed).map
      (Issue.renumber (Text.numberWithout removed)) }

/-- All the removed lines from `number` on have an issue in the passage. -/
def Reports (passage : Passage) (removed : Finset Nat) (number : Nat) : Prop :=
  ∀ line ∈ removed, number ≤ line → ∃ issue ∈ passage.issues, issue.line = line

theorem le_line_of_mem_issues {lines : List (List Char)} {issue : Issue}
    (h : issue ∈ (ofLines source number lines).issues) : number ≤ issue.line := by
  rw [← Nat.zero_add number, ofLines_add] at h
  obtain ⟨early, -, rfl⟩ := List.mem_map.1 h
  simp

namespace Reports

variable {passage : Passage}

/-- A line before all the issues is not removed. -/
theorem notMem (h : passage.Reports removed number)
    (later : ∀ issue ∈ passage.issues, number < issue.line) : number ∉ removed := by
  intro mem
  obtain ⟨issue, found, here⟩ := h number mem le_rfl
  have less := later issue found
  omega

theorem succ (h : passage.Reports removed number) : passage.Reports removed (number + 1) := by
  intro line mem le
  exact h line mem (Nat.le_of_succ_le le)

/-- An issue in its own line is not needed by the lines below. -/
theorem ofIssue {issue : Issue} (h : (passage.issue issue).Reports removed number)
    (here : issue.line = number) : passage.Reports removed (number + 1) := by
  intro line mem le
  obtain ⟨found, isFound, same⟩ := h line mem (Nat.le_of_succ_le le)
  rcases List.mem_cons.1 isFound with rfl | isFound
  · omega
  · exact ⟨found, isFound, same⟩

end Reports

section Cons

variable {line : List Char} {rest : List (List Char)}

/-- A line that stays is read as before, and so are the lines below. -/
theorem ofLines_keptLines_of_notMem {next : Option String} (read : Passage → Passage)
    (step : ∀ number rest,
      ofLines source number (line :: rest) = read (ofLines next (number + 1) rest))
    (commutes : ∀ passage, (read passage).without removed = read (passage.without removed))
    (kept : number ∉ removed)
    (ih : ofLines next (Text.numberWithout removed (number + 1))
      (Text.keptLines removed (number + 1) rest) =
        (ofLines next (number + 1) rest).without removed) :
    ofLines source (Text.numberWithout removed number)
        (Text.keptLines removed number (line :: rest)) =
      (ofLines source number (line :: rest)).without removed := by
  rw [Text.keptLines_cons_of_notMem kept, step, step, commutes, ← ih,
    Text.numberWithout_succ_of_notMem kept]

/-- A line with an issue goes with its issue or stays with it. -/
theorem ofLines_keptLines_of_issue {issue : Nat → Issue}
    (step : ∀ number rest, ofLines source number (line :: rest) =
      (ofLines source (number + 1) rest).issue (issue number))
    (here : ∀ number, (issue number).line = number)
    (moved : ∀ number place, (issue number).renumber place = issue (place number))
    (ih : ofLines source (Text.numberWithout removed (number + 1))
      (Text.keptLines removed (number + 1) rest) =
        (ofLines source (number + 1) rest).without removed) :
    ofLines source (Text.numberWithout removed number)
        (Text.keptLines removed number (line :: rest)) =
      (ofLines source number (line :: rest)).without removed := by
  by_cases gone : number ∈ removed
  · have dropped (passage : Passage) :
        (passage.issue (issue number)).without removed = passage.without removed := by
      simp [without, Passage.issue, here, gone]
    rw [Text.keptLines_cons_of_mem gone, step, dropped, ← ih, Text.numberWithout_succ_of_mem gone]
  · have renumbered (passage : Passage) : (passage.issue (issue number)).without removed =
        (passage.without removed).issue (issue (Text.numberWithout removed number)) := by
      simp [without, Passage.issue, here, gone, moved]
    rw [Text.keptLines_cons_of_notMem gone, step, step, renumbered, ← ih,
      Text.numberWithout_succ_of_notMem gone]

end Cons

/-- The lines that are left are read as they were among all lines. -/
theorem ofLines_keptLines {lines : List (List Char)}
    (reports : (ofLines source number lines).Reports removed number) :
    ofLines source (Text.numberWithout removed number) (Text.keptLines removed number lines) =
      (ofLines source number lines).without removed := by
  have below {source : Option String} {number : Nat} {rest : List (List Char)} :
      ∀ issue ∈ (ofLines source (number + 1) rest).issues, number < issue.line :=
    fun _ found ↦ le_line_of_mem_issues found
  induction source, number, lines using ofLines_induction with
  | nil => rfl
  | skipped source number line rest kind ih =>
    rw [ofLines_skipped kind] at reports
    exact ofLines_keptLines_of_notMem id (fun _ _ ↦ ofLines_skipped kind) (fun _ ↦ rfl)
      (reports.notMem below) (ih reports.succ)
  | header source number line rest label kind ih =>
    rw [ofLines_header kind] at reports
    exact ofLines_keptLines_of_notMem (stanza label) (fun _ _ ↦ ofLines_header kind)
      (fun _ ↦ rfl) (reports.notMem below) (ih reports.succ)
  | noHeader number line rest tokens kind ih =>
    rw [ofLines_noHeader kind] at reports
    exact ofLines_keptLines_of_issue (fun _ _ ↦ ofLines_noHeader kind) (fun _ ↦ rfl)
      (fun _ _ ↦ rfl) (ih (reports.ofIssue rfl))
  | noDestination source number line rest kind ih =>
    rw [ofLines_noDestination kind] at reports
    exact ofLines_keptLines_of_issue (fun _ _ ↦ ofLines_noDestination kind) (fun _ ↦ rfl)
      (fun _ _ ↦ rfl) (ih (reports.ofIssue rfl))
  | noPorts source number line rest name kind ih =>
    rw [ofLines_noPorts kind] at reports
    exact ofLines_keptLines_of_issue (fun _ _ ↦ ofLines_noPorts kind) (fun _ ↦ rfl)
      (fun _ _ ↦ rfl) (ih (reports.ofIssue rfl))
  | destination source number line rest name port ports kind ih =>
    rw [ofLines_destination kind] at reports
    exact ofLines_keptLines_of_notMem (destination ⟨name, port :: ports⟩)
      (fun _ _ ↦ ofLines_destination kind) (fun _ ↦ rfl) (reports.notMem below) (ih reports.succ)

end Passage

namespace Report

variable {content : String} {removed : Finset Nat}

theorem passage_withoutLines
    (reported : removed ⊆ ((ofText content).issues.map Issue.line).toFinset) :
    Passage.ofLines none 1 (Text.physicalLines (Text.withoutLines removed content).toList) =
      (Passage.ofLines none 1 (Text.physicalLines content.toList)).without removed := by
  have named : ∀ line ∈ removed, ∃ issue ∈
      (Passage.ofLines none 1 (Text.physicalLines content.toList)).issues, issue.line = line := by
    intro line mem
    have isLine := List.mem_toFinset.1 (reported mem)
    rw [ofText, issues_ofLines] at isLine
    exact List.mem_map.1 isLine
  -- Lines are counted from one, so no removed line comes before the first.
  have first : 0 ∉ removed := by
    intro mem
    obtain ⟨issue, found, zero⟩ := named 0 mem
    have positive := Passage.le_line_of_mem_issues found
    omega
  have start : Text.numberWithout removed 1 = 1 := by
    rw [Text.numberWithout_succ_of_notMem first]
    simp [Text.numberWithout]
  have newlineFree : ∀ line ∈ Text.keptLines removed 1 (Text.physicalLines content.toList),
      '\n' ∉ line := by
    intro line mem
    exact Text.newlineFree_physicalLines _ line (Text.mem_of_mem_keptLines mem)
  have kept := Passage.ofLines_keptLines fun line mem _ ↦ named line mem
  rw [start] at kept
  rw [Text.withoutLines, String.toList_ofList, Passage.ofLines_intercalate newlineFree, kept]

/-- What a report is after some of the lines that it names were taken out of the text: the document
is the same, the other issues moved up, and there are rules as soon as no fatal issue is left. -/
structure Recovers (content : String) (removed : Finset Nat) : Prop where
  document : (ofText (Text.withoutLines removed content)).document = (ofText content).document
  issues : (ofText (Text.withoutLines removed content)).issues =
    ((ofText content).issues.filter fun issue ↦ issue.line ∉ removed).map
      (Issue.renumber (Text.numberWithout removed))
  accepted : (∀ issue ∈ (ofText content).fatalIssues, issue.line ∈ removed) →
    flatten (Text.withoutLines removed content) = .ok (ofText content).rules
  refused : (∃ issue ∈ (ofText content).fatalIssues, issue.line ∉ removed) →
    ∃ failure, flatten (Text.withoutLines removed content) = .error failure

/-- Any of the lines that a report names can be taken out of the text, and the rest of the text is
read as it was. -/
theorem recovers_of_reported (content : String) {removed : Finset Nat}
    (reported : removed ⊆ ((ofText content).issues.map Issue.line).toFinset) :
    Recovers content removed := by
  have passages := passage_withoutLines reported
  have document : (ofText (Text.withoutLines removed content)).document =
      (ofText content).document := by
    rw [ofText, ofText, document_ofLines, document_ofLines, passages]
    rfl
  have issues : (ofText (Text.withoutLines removed content)).issues =
      ((ofText content).issues.filter fun issue ↦ issue.line ∉ removed).map
        (Issue.renumber (Text.numberWithout removed)) := by
    rw [ofText, ofText, issues_ofLines, issues_ofLines, passages]
    rfl
  have hasErrors : (ofText (Text.withoutLines removed content)).hasErrors = true ↔
      ∃ issue ∈ (ofText content).fatalIssues, issue.line ∉ removed := by
    rw [Report.hasErrors, issues, List.any_map, List.any_filter, List.any_eq_true]
    simp [fatalIssues, and_assoc, and_comm, and_left_comm]
  refine ⟨document, issues, fun gone ↦ ?_, fun left ↦ ?_⟩
  · refine flatten_eq_ok_iff.2 ⟨?_, by rw [document, rules]⟩
    rw [← Bool.not_eq_true, hasErrors]
    rintro ⟨issue, fatal, left⟩
    exact left (gone issue fatal)
  · rw [flatten, result, if_pos (hasErrors.2 left)]
    exact ⟨_, rfl⟩

/-- Of four lines with issues, three of them fatal, first two and then all fatal ones go. -/
theorem recovers_of_reported_sample :
    let content := "lost\r\r\n[a]\n alone\nd,80\n,\n\ne,"
    (ofText content).issues.map Issue.line = [1, 3, 5, 7] ∧
      Text.withoutLines {3, 5} content = "lost\r\n[a]\nd,80\n\ne," ∧
      Recovers content {3, 5} ∧ Recovers content {1, 3, 7} := by
  intro content
  refine ⟨by decide, by decide, ?_, ?_⟩
  · exact recovers_of_reported content (by decide)
  · exact recovers_of_reported content (by decide)

end Report

end Rulebook
