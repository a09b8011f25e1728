import Mathlib.Tactic.Common
import Rulebook.Proofs.Values.ListFile

/-!
# Which list files are accepted

A list file stands or falls with its lines, each taken alone: `ofFile_eq_iff` says which lines are
accepted, what is read from a file of such lines, and which line is blamed otherwise. How the lines
are ended makes no difference.
-/

namespace Rulebook.ValueList

/-- A line that a list file may have: an empty one, a comment, or a value. -/
def IsAccepted (line : List Char) : Prop :=
  line = [] ∨ line.head? = some '#' ∨ ∀ c ∈ line, Text.isBlank c = false ∧ c ≠ ','

/-- No line before `line`, which has this number, offends. -/
structure IsFirstOffence (content : String) (number : Nat) (line : List Char) : Prop where
  isLine : (line, number) ∈ (lines content).zipIdx 1
  refused : ¬IsAccepted line
  least : ∀ other earlier, (earlier, other) ∈ (lines content).zipIdx 1 → ¬IsAccepted earlier →
    number ≤ other

variable {path content : String} {number : Nat} {line : List Char} {values : List String}
  {failure : Failure}

theorem isAccepted_iff_not_isOffending : IsAccepted line ↔ ¬IsOffending line := by
  simp only [IsAccepted, IsOffending, IsEntry, not_and, not_exists, not_or, Bool.not_eq_true]
  by_cases empty : line = []
  · simp [empty]
  · by_cases comment : line.head? = some '#'
    · simp [comment]
    · simp [empty, comment]

/-! ## The first line that is refused -/

/-- The numbers of the lines are their places. -/
theorem mem_zipIdx_iff {lines : List (List Char)} :
    (line, number) ∈ lines.zipIdx 1 ↔
      ∃ before after, lines = before ++ line :: after ∧ number = before.length + 1 := by
  constructor
  · intro mem
    obtain ⟨positive, there⟩ := List.mk_mem_zipIdx_iff_le_and_getElem?_sub.1 mem
    obtain ⟨inside, rfl⟩ := List.getElem?_eq_some_iff.1 there
    refine ⟨lines.take (number - 1), lines.drop (number - 1 + 1), ?_, ?_⟩
    · rw [List.getElem_cons_drop, List.take_append_drop]
    · rw [List.length_take, Nat.min_eq_left (Nat.le_of_lt inside)]
      omega
  · rintro ⟨before, after, rfl, rfl⟩
    rw [List.mk_mem_zipIdx_iff_le_and_getElem?_sub]
    simp

theorem isFirstOffence_iff : IsFirstOffence content number line ↔
    ∃ before after, lines content = before ++ line :: after ∧
      (∀ earlier ∈ before, ¬IsOffending earlier) ∧ IsOffending line ∧
        number = before.length + 1 := by
  constructor
  · rintro ⟨isLine, refused, least⟩
    obtain ⟨before, after, split, rfl⟩ := mem_zipIdx_iff.1 isLine
    rw [isAccepted_iff_not_isOffending, not_not] at refused
    refine ⟨before, after, split, fun earlier mem offending ↦ ?_, refused, rfl⟩
    obtain ⟨front, back, rfl⟩ := List.append_of_mem mem
    have place : (earlier, front.length + 1) ∈ (lines content).zipIdx 1 :=
      mem_zipIdx_iff.2 ⟨front, back ++ line :: after, by simp [split], rfl⟩
    have later := least _ earlier place (by rwa [isAccepted_iff_not_isOffending, not_not])
    rw [List.length_append, List.length_cons] at later
    omega
  · rintro ⟨before, after, split, sound, offending, rfl⟩
    refine ⟨mem_zipIdx_iff.2 ⟨before, after, split, rfl⟩,
      by rwa [isAccepted_iff_not_isOffending, not_not], fun other earlier mem refused ↦ ?_⟩
    rw [isAccepted_iff_not_isOffending, not_not] at refused
    obtain ⟨front, back, split', rfl⟩ := mem_zipIdx_iff.1 mem
    by_contra! shorter
    -- A line with a smaller number stands before this one, where none offends.
    have starts : front ++ [earlier] <+: lines content :=
      ⟨back, by rw [split', List.append_assoc, List.singleton_append]⟩
    have within : front ++ [earlier] <+: before := by
      refine List.prefix_of_prefix_length_le starts ⟨line :: after, split.symm⟩ ?_
      rw [List.length_append, List.length_singleton]
      omega
    exact sound earlier (within.mem (List.mem_append_right _ (List.mem_singleton_self _))) refused

theorem ofFile_eq_ok_iff : ofFile path content = .ok values ↔
    (∀ line ∈ lines content, IsAccepted line) ∧ values = entries (lines content) := by
  simp only [ofFile_eq, ofLines_eq_ok_iff, isAccepted_iff_not_isOffending]

theorem ofFile_eq_error_iff : ofFile path content = .error failure ↔
    ∃ number line, IsFirstOffence content number line ∧
      failure = .malformedList path number (String.ofList line) := by
  simp only [ofFile_eq, ofLines_eq_error_iff, isFirstOffence_iff]
  constructor
  · rintro ⟨before, line, after, split, sound, offending, rfl⟩
    exact ⟨_, line, ⟨before, after, split, sound, offending, rfl⟩, by rw [Nat.add_comm]⟩
  · rintro ⟨_, line, ⟨before, after, split, sound, offending, rfl⟩, rfl⟩
    exact ⟨before, line, after, split, sound, offending, by rw [Nat.add_comm]⟩

/-! ## Line ends -/

/-- A line at the end that is no entry is not noticed. -/
theorem ofLines_concat (h : ¬IsEntry line) (lines : List (List Char)) :
    ofLines path number (lines ++ [line]) = ofLines path number lines := by
  induction lines generalizing number with
  | nil => exact ofLines_skipped h
  | cons first rest ih =>
    rw [List.cons_append]
    by_cases entry : IsEntry first
    · by_cases offending : IsOffending first
      · rw [ofLines_offending offending, ofLines_offending offending]
      · rw [ofLines_entry entry offending, ofLines_entry entry offending, ih]
    · rw [ofLines_skipped entry, ofLines_skipped entry, ih]

theorem ofFile_withReturns (h : '\r' ∉ content.toList) :
    ofFile path (String.ofList (Text.withReturns content.toList)) = ofFile path content := by
  rw [ofFile, String.toList_ofList, Text.physicalLines_withReturns h, ofFile]

theorem ofFile_append_newline (h : '\r' ∉ content.toList) :
    ofFile path (content ++ "\n") = ofFile path content := by
  have isText : (content ++ "\n").toList = content.toList ++ ['\n'] := String.toList_append
  rw [ofFile, isText, ofFile]
  rcases Text.physicalLines_concat_newline h with same | one
  · rw [same]
  · rw [one, ofLines_concat fun entry ↦ entry.1 rfl]

/-- A list file is read if and only if all its lines are accepted, and its values are the lines that
are neither empty nor comments. Otherwise the failure names its first line that is not accepted. In a
file without carriage returns it does not matter if they are put before all line feeds, or if a last
line feed is added. -/
theorem ofFile_eq_iff (path content : String) :
    (∀ values, ofFile path content = .ok values ↔
      (∀ line ∈ lines content, IsAccepted line) ∧ values = entries (lines content)) ∧
    (∀ failure, ofFile path content = .error failure ↔
      ∃ number line, IsFirstOffence content number line ∧
        failure = .malformedList path number (String.ofList line)) ∧
    ('\r' ∉ content.toList →
      ofFile path (String.ofList (Text.withReturns content.toList)) = ofFile path content ∧
        ofFile path (content ++ "\n") = ofFile path content) :=
  ⟨fun _ ↦ ofFile_eq_ok_iff, fun _ ↦ ofFile_eq_error_iff,
    fun noReturn ↦ ⟨ofFile_withReturns noReturn, ofFile_append_newline noReturn⟩⟩

/-- The second of the four lines is blank, but not empty. -/
theorem ofFile_eq_iff_blankLine :
    ofFile "p.config" "#\n\u3000\na,b\n80" = .error (.malformedList "p.config" 2 "\u3000") ∧
      ofFile "p.config" "#\r\n\u3000\r\na,b\r\n80" = .error (.malformedList "p.config" 2 "\u3000") ∧
        ofFile "p.config" "#\n\u3000\na,b\n80\n" =
          .error (.malformedList "p.config" 2 "\u3000") := by
  have read : ofFile "p.config" "#\n\u3000\na,b\n80" =
      .error (.malformedList "p.config" 2 "\u3000") := rfl
  obtain ⟨-, -, ends⟩ := ofFile_eq_iff "p.config" "#\n\u3000\na,b\n80"
  obtain ⟨returns, newline⟩ := ends (by decide)
  exact ⟨read, returns.trans read, newline.trans read⟩

end Rulebook.ValueList
