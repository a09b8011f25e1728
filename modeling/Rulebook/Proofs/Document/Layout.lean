import Mathlib.Logic.Relation
import Rulebook.Proofs.Document.Outline
import Rulebook.StagedRun

/-!
# Layout

What a document says is in its significant lines: its lines without their blanks, less the comments
and the lines that are left empty.  Documents with the same significant lines are read alike, up to
the line numbers of their issues.  `relaid_iff` says which documents these are: a change of layout
adds blanks within lines, empty lines, comments or the last line feed, or takes them away.
-/

namespace Rulebook

namespace Text

/-- A carriage return is a blank, so it does not matter if it belongs to the line end. -/
theorem squeeze_dropReturn (piece : List Char) : squeeze (dropReturn piece) = squeeze piece := by
  rw [dropReturn]
  split
  case isTrue closing =>
    obtain ⟨line, rfl⟩ := List.getLast?_eq_some_iff.1 closing
    rw [List.dropLast_concat, squeeze_append]
    exact (List.append_nil _).symm
  case isFalse => rfl

end Text

/-! ## Significant lines -/

namespace Outline

/-- A line without blanks that is neither empty nor a comment. -/
def isSignificant (line : List Char) : Bool :=
  !(line.isEmpty || line.head? == some '#')

/-- The lines of a text that say something, each without its blanks. -/
def significantLines (content : String) : List (List Char) :=
  (lines content).filter isSignificant

/-- What is left of lines that may have blanks. -/
def significant (lines : List (List Char)) : List (List Char) :=
  (lines.map Text.squeeze).filter isSignificant

theorem ofLine_eq_skipped_iff {line : List Char} :
    LineKind.ofLine line = .skipped ↔ isSignificant line = false := by
  rw [LineKind.ofLine, isSignificant, Bool.not_eq_false']
  split
  case isTrue skipped => simp [skipped]
  case isFalse other => split <;> simpa using other

theorem significant_cons (line : List Char) (rest : List (List Char)) :
    significant (line :: rest) =
      if isSignificant (Text.squeeze line) then Text.squeeze line :: significant rest
      else significant rest :=
  List.filter_cons

theorem significant_append (lines rest : List (List Char)) :
    significant (lines ++ rest) = significant lines ++ significant rest := by
  rw [significant, List.map_append, List.filter_append]
  rfl

section Cons

variable {line : List Char} {rest : List (List Char)}

theorem significant_cons_of_skipped (h : LineKind.ofLine (Text.squeeze line) = .skipped) :
    significant (line :: rest) = significant rest := by
  rw [significant_cons, ofLine_eq_skipped_iff.1 h]
  rfl

theorem significant_cons_of_not_skipped (h : LineKind.ofLine (Text.squeeze line) ≠ .skipped) :
    significant (line :: rest) = Text.squeeze line :: significant rest := by
  rw [significant_cons, if_pos]
  simpa using mt ofLine_eq_skipped_iff.2 h

end Cons

/-- A text need not be cut into physical lines to find what it says. -/
theorem significant_linesOfPieces (pieces : List (List Char)) :
    significant (Text.linesOfPieces pieces) = significant pieces := by
  fun_induction Text.linesOfPieces pieces with
  | case1 | case2 | case3 => rfl
  | case4 piece rest _ ih => rw [significant_cons, significant_cons, Text.squeeze_dropReturn, ih]

theorem significantLines_eq (content : String) :
    significantLines content = significant (content.toList.splitOn '\n') :=
  significant_linesOfPieces _

end Outline

/-! ## Reading significant lines -/

namespace Issue

/-- The same issue in another line. -/
def renumber (place : Nat → Nat) : Issue → Issue
  | noDestination line source => noDestination (place line) source
  | noPorts line source destination => noPorts (place line) source destination
  | noHeader line content => noHeader (place line) content

@[simp] theorem isFatal_renumber (place : Nat → Nat) (issue : Issue) :
    (issue.renumber place).isFatal = issue.isFatal := by
  cases issue <;> rfl

/-- What an issue says apart from its line number. -/
def unnumbered : Issue → Issue :=
  renumber fun _ ↦ 0

end Issue

namespace Passage

open Outline

/-- What a passage says apart from its line numbers. -/
def unnumbered (passage : Passage) : Passage :=
  { passage with issues := passage.issues.map Issue.unnumbered }

/-- Lines say the same as the significant ones among them. -/
theorem unnumbered_ofLines (source : Option String) (number other : Nat)
    (lines : List (List Char)) :
    (ofLines source number lines).unnumbered =
      (ofLines source other (significant lines)).unnumbered := by
  have squeezed {line : List Char} {kind : LineKind}
      (h : LineKind.ofLine (Text.squeeze line) = kind) :
      LineKind.ofLine (Text.squeeze (Text.squeeze line)) = kind := by
    rwa [Text.squeeze_squeeze]
  induction source, number, lines using ofLines_induction generalizing other with
  | nil => rfl
  | skipped source number line rest kind ih =>
    rw [ofLines_skipped kind, significant_cons_of_skipped kind]
    exact ih other
  | header source number line rest label kind ih =>
    rw [ofLines_header kind, significant_cons_of_not_skipped (by rw [kind]; exact nofun),
      ofLines_header (squeezed kind)]
    exact congrArg (stanza label) (ih (other + 1))
  | noHeader number line rest tokens kind ih =>
    rw [ofLines_noHeader kind, significant_cons_of_not_skipped (by rw [kind]; exact nofun),
      ofLines_noHeader (squeezed kind), Text.squeeze_squeeze]
    exact congrArg (issue (.noHeader 0 _)) (ih (other + 1))
  | noDestination source number line rest kind ih =>
    rw [ofLines_noDestination kind, significant_cons_of_not_skipped (by rw [kind]; exact nofun),
      ofLines_noDestination (squeezed kind)]
    exact congrArg (issue (.noDestination 0 source)) (ih (other + 1))
  | noPorts source number line rest name kind ih =>
    rw [ofLines_noPorts kind, significant_cons_of_not_skipped (by rw [kind]; exact nofun),
      ofLines_noPorts (squeezed kind)]
    exact congrArg (issue (.noPorts 0 source name)) (ih (other + 1))
  | destination source number line rest name port ports kind ih =>
    rw [ofLines_destination kind, significant_cons_of_not_skipped (by rw [kind]; exact nofun),
      ofLines_destination (squeezed kind)]
    exact congrArg (destination ⟨name, port :: ports⟩) (ih (other + 1))

end Passage

namespace Report

/-- Two texts are read alike: they have the same document and the same issues up to line numbers,
and they are flattened to the same rules, or neither of them is. -/
structure ReadAlike (content other : String) : Prop where
  document : (ofText content).document = (ofText other).document
  issues : (ofText content).issues.map Issue.unnumbered = (ofText other).issues.map Issue.unnumbered
  rules : (flatten content).toOption = (flatten other).toOption

theorem hasErrors_eq (report : Report) :
    report.hasErrors = (report.issues.map Issue.unnumbered).any Issue.isFatal := by
  simp [hasErrors, List.any_map, Function.comp_def, Issue.unnumbered]

theorem toOption_result (report : Report) :
    report.result.toOption = if report.hasErrors then none else some report.rules := by
  rw [result]
  split <;> rfl

theorem unnumbered_ofText (content : String) :
    (Passage.ofLines none 1 (Text.physicalLines content.toList)).unnumbered =
      (Passage.ofLines none 1 (Outline.significantLines content)).unnumbered := by
  rw [Passage.unnumbered_ofLines none 1 1, Text.physicalLines_eq]
  rfl

theorem readAlike {content other : String}
    (same : Outline.significantLines content = Outline.significantLines other) :
    ReadAlike content other := by
  have passages : (Passage.ofLines none 1 (Text.physicalLines content.toList)).unnumbered =
      (Passage.ofLines none 1 (Text.physicalLines other.toList)).unnumbered := by
    rw [unnumbered_ofText, unnumbered_ofText, same]
  have document : (ofText content).document = (ofText other).document := by
    rw [ofText, ofText, document_ofLines, document_ofLines]
    exact congrArg Document.mk (congrArg Passage.stanzas passages :)
  have issues : (ofText content).issues.map Issue.unnumbered =
      (ofText other).issues.map Issue.unnumbered := by
    rw [ofText, ofText, issues_ofLines, issues_ofLines]
    exact (congrArg Passage.issues passages :)
  refine ⟨document, issues, ?_⟩
  rw [flatten, flatten, toOption_result, toOption_result, hasErrors_eq, hasErrors_eq, issues,
    rules, rules, document]

end Report

/-! ## Changes of layout -/

/-- One more blank, one more line that says nothing, or the line feed at the end. -/
inductive LayoutEdit : List Char → List Char → Prop where
  /-- The blank stands anywhere in a line. In front of a line feed it may be a carriage return. -/
  | blank {c : Char} (before after : List Char) (isBlank : Text.isBlank c = true)
      (sameLine : c ≠ '\n') : LayoutEdit (before ++ after) (before ++ c :: after)
  /-- The line is empty or a comment, apart from its blanks. -/
  | skippedLine {before line : List Char} (after : List Char) (whole : Text.IsWhole before)
      (newlineFree : '\n' ∉ line) (skipped : LineKind.ofLine (Text.squeeze line) = .skipped) :
      LayoutEdit (before ++ after) (before ++ (line ++ '\n' :: after))
  | lastNewline (text : List Char) : LayoutEdit text (text ++ ['\n'])

/-- Two texts that differ by such changes, there and back. -/
def Relaid : List Char → List Char → Prop :=
  Relation.EqvGen LayoutEdit

namespace Text

/-- A piece without its blanks is a piece of the text without its blanks. -/
theorem map_squeeze_splitOn (text : List Char) :
    (text.splitOn '\n').map squeeze =
      (text.filter fun c ↦ c == '\n' || !isBlank c).splitOn '\n' := by
  induction text with
  | nil => rfl
  | cons c text ih =>
    obtain ⟨piece, pieces, split⟩ := List.exists_cons_of_ne_nil (List.splitOn_ne_nil '\n' text)
    rw [split, List.map_cons] at ih
    rw [List.splitOn_cons_eq_if_modifyHead, List.filter_cons]
    by_cases newline : c = '\n'
    · simp [newline, split, ← ih, List.splitOn_cons_eq_if_modifyHead]
    · cases blank : isBlank c with
      | true => simp [newline, split, ← ih, squeeze_cons_of_isBlank blank]
      | false =>
        simp [newline, split, ← ih, squeeze_cons_of_not_isBlank blank,
          List.splitOn_cons_eq_if_modifyHead]

end Text

namespace LayoutEdit

open Outline

theorem significant_eq {text other : List Char} (h : LayoutEdit text other) :
    significant (text.splitOn '\n') = significant (other.splitOn '\n') := by
  cases h with
  | @blank c before after isBlank sameLine =>
    have noLetter : (c == '\n' || !Text.isBlank c) = false := by simp [isBlank, sameLine]
    rw [significant, significant, Text.map_squeeze_splitOn, Text.map_squeeze_splitOn,
      List.filter_append, List.filter_append, List.filter_cons, if_neg (by simp [noLetter])]
  | @skippedLine before line after whole newlineFree skipped =>
    obtain ⟨pieces, split⟩ := whole.exists_splitOn
    rw [split, split, List.splitOn_append_cons_self, List.splitOn_eq_singleton newlineFree,
      significant_append, significant_append, List.singleton_append,
      significant_cons_of_skipped skipped]
  | lastNewline =>
    rw [List.splitOn_append_cons_self, List.splitOn_nil, significant_append]
    exact (List.append_nil _).symm

end LayoutEdit

namespace Relaid

open Outline

variable {text other last : List Char}

theorem refl (text : List Char) : Relaid text text :=
  Relation.EqvGen.refl text

theorem symm (h : Relaid text other) : Relaid other text :=
  Relation.EqvGen.symm _ _ h

theorem trans (first : Relaid text other) (second : Relaid other last) : Relaid text last :=
  Relation.EqvGen.trans _ _ _ first second

theorem ofEdit (edit : LayoutEdit text other) : Relaid text other :=
  Relation.EqvGen.rel _ _ edit

/-- The blanks of a line can go, one after the other. -/
theorem squeeze {line : List Char} (newlineFree : '\n' ∉ line) (before after : List Char) :
    Relaid (before ++ (line ++ after)) (before ++ (Text.squeeze line ++ after)) := by
  induction line generalizing before with
  | nil => exact refl _
  | cons c line ih =>
    rw [List.mem_cons, not_or] at newlineFree
    cases blank : Text.isBlank c with
    | true =>
      rw [Text.squeeze_cons_of_isBlank blank]
      have edit : LayoutEdit (before ++ (line ++ after)) (before ++ c :: (line ++ after)) :=
        .blank _ _ blank fun newline ↦ newlineFree.1 newline.symm
      exact (ofEdit edit).symm.trans (ih newlineFree.2 before)
    | false =>
      rw [Text.squeeze_cons_of_not_isBlank blank]
      simpa using ih newlineFree.2 (before ++ [c])

/-- Behind whole lines, only the significant lines need to stay. -/
theorem significant_of_pieces {pieces : List (List Char)}
    (newlineFree : ∀ piece ∈ pieces, '\n' ∉ piece) {before : List Char}
    (whole : Text.IsWhole before) :
    Relaid (before ++ pieces.flatMap (· ++ ['\n']))
      (before ++ (significant pieces).flatMap (· ++ ['\n'])) := by
  induction pieces generalizing before with
  | nil => exact refl _
  | cons piece rest ih =>
    obtain ⟨here, later⟩ := List.forall_mem_cons.1 newlineFree
    rw [List.flatMap_cons, List.append_assoc, List.singleton_append]
    refine (squeeze here before _).trans ?_
    by_cases kind : LineKind.ofLine (Text.squeeze piece) = .skipped
    · rw [significant_cons_of_skipped kind]
      have free : '\n' ∉ Text.squeeze piece := fun mem ↦ here (List.mem_of_mem_filter mem)
      have edit := LayoutEdit.skippedLine (rest.flatMap (· ++ ['\n'])) whole free
        (by rwa [Text.squeeze_squeeze])
      exact (ofEdit edit).symm.trans (ih later whole)
    · rw [significant_cons_of_not_skipped kind]
      simpa using ih later (Text.IsWhole.append_newline before (Text.squeeze piece))

/-- Every text can be laid out as its significant lines, each ended by a line feed. -/
theorem to_significant (text : List Char) :
    Relaid text ((significant (text.splitOn '\n')).flatMap (· ++ ['\n'])) := by
  refine (ofEdit (.lastNewline text)).trans ?_
  rw [← Text.flatMap_splitOn]
  exact significant_of_pieces (fun _ isPiece ↦ Text.sep_notMem_of_mem_splitOn isPiece) (.inl rfl)

end Relaid

/-- The changes of layout are those that keep the significant lines. -/
theorem relaid_iff {text other : List Char} :
    Relaid text other ↔
      Outline.significant (text.splitOn '\n') = Outline.significant (other.splitOn '\n') := by
  constructor
  · intro h
    induction h with
    | rel _ _ edit => exact edit.significant_eq
    | refl _ => rfl
    | symm _ _ _ ih => exact ih.symm
    | trans _ _ _ _ _ first second => exact first.trans second
  · intro same
    have back := Relaid.to_significant other
    rw [← same] at back
    exact (Relaid.to_significant text).trans back.symm

namespace Report

/-- Texts with the same significant lines are read alike, and these are the texts that a change of
layout leads to: blanks, empty lines, comments, carriage returns and the last line feed do not
matter. -/
theorem readAlike_of_significantLines (content other : String) :
    (Outline.significantLines content = Outline.significantLines other →
      ReadAlike content other) ∧
      (Relaid content.toList other.toList ↔
        Outline.significantLines content = Outline.significantLines other) := by
  refine ⟨readAlike, ?_⟩
  rw [Outline.significantLines_eq, Outline.significantLines_eq]
  exact relaid_iff

/-- Blanks of many kinds, line ends of both kinds and an open last line, against the plain text. -/
theorem readAlike_of_significantLines_sample :
    let content := "#\u2028none\r\n\t[ a\u00a0]\r\n\n d ,\u2003 80\r\r\n # d,80\n , \n\u3000e"
    let other := "[a]\nd,80\n,\ne\n"
    Outline.significantLines content = Outline.significantLines other ∧
      ReadAlike content other := by
  intro content other
  have same : Outline.significantLines content = Outline.significantLines other := by decide
  exact ⟨same, (readAlike_of_significantLines content other).1 same⟩

end Report

end Rulebook
