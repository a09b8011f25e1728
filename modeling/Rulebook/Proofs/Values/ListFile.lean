import Rulebook.Proofs.Text.Lines
import Rulebook.ValueList

/-!
# What a list file says

A list file is read until its first offending line, one that should be a value but has a blank or a
comma.  `ValueList.ofLines_eq_ok_iff` and `ValueList.ofLines_eq_error_iff` tell the two ways in
which that can end without following the lines.
-/

namespace Rulebook.ValueList

/-- The lines of a list file as they stand, blanks included. -/
def lines (content : String) : List (List Char) :=
  Text.linesOfPieces (content.toList.splitOn '\n')

/-- A line that is neither empty nor a comment has to be a value. -/
def IsEntry (line : List Char) : Prop :=
  line ≠ [] ∧ line.head? ≠ some '#'

/-- An entry that is more than one value. -/
def IsOffending (line : List Char) : Prop :=
  IsEntry line ∧ ∃ c ∈ line, Text.isBlank c = true ∨ c = ','

instance (line : List Char) : Decidable (IsEntry line) :=
  inferInstanceAs (Decidable (_ ∧ _))

/-- The entries of a file, each as it stands. -/
def entries (lines : List (List Char)) : List String :=
  (lines.filter IsEntry).map String.ofList

variable {path : String} {number : Nat} {line : List Char} {rest before after : List (List Char)}
  {values : List String} {failure : Failure}

theorem isSkipped_eq_false_iff : isSkipped line = false ↔ IsEntry line := by
  simp [isSkipped, IsEntry]

theorem isMalformed_iff :
    isMalformed line = true ↔ ∃ c ∈ line, Text.isBlank c = true ∨ c = ',' := by
  simp [isMalformed]

theorem ofFile_eq (path content : String) :
    ofFile path content = ofLines path 1 (lines content) := by
  rw [ofFile, Text.physicalLines_eq, lines]

/-! ## One line more -/

theorem ofLines_skipped (h : ¬IsEntry line) :
    ofLines path number (line :: rest) = ofLines path (number + 1) rest := by
  rw [← isSkipped_eq_false_iff, Bool.not_eq_false] at h
  rw [ofLines, if_pos h]

theorem ofLines_offending (h : IsOffending line) :
    ofLines path number (line :: rest) =
      .error (.malformedList path number (String.ofList line)) := by
  have entry := isSkipped_eq_false_iff.2 h.1
  rw [ofLines, if_neg (by simp [entry]), if_pos (isMalformed_iff.2 h.2)]

theorem ofLines_entry (entry : IsEntry line) (sound : ¬IsOffending line) :
    ofLines path number (line :: rest) =
      (ofLines path (number + 1) rest).map (String.ofList line :: ·) := by
  have single : ¬isMalformed line = true := fun h ↦ sound ⟨entry, isMalformed_iff.1 h⟩
  rw [ofLines, if_neg (by simp [isSkipped_eq_false_iff.2 entry]), if_neg single]
  cases ofLines path (number + 1) rest <;> rfl

theorem entries_skipped (h : ¬IsEntry line) : entries (line :: rest) = entries rest := by
  rw [entries, List.filter_cons_of_neg (by simpa using h), entries]

theorem entries_entry (h : IsEntry line) :
    entries (line :: rest) = String.ofList line :: entries rest := by
  rw [entries, List.filter_cons_of_pos (by simpa using h), List.map_cons, entries]

/-! ## All lines -/

/-- Without an offending line, every entry is a value. -/
theorem ofLines_of_sound {lines : List (List Char)} (h : ∀ line ∈ lines, ¬IsOffending line) :
    ofLines path number lines = .ok (entries lines) := by
  induction lines generalizing number with
  | nil => rfl
  | cons line rest ih =>
    obtain ⟨sound, others⟩ := List.forall_mem_cons.1 h
    by_cases entry : IsEntry line
    · rw [ofLines_entry entry sound, ih others, entries_entry entry]
      rfl
    · rw [ofLines_skipped entry, ih others, entries_skipped entry]

/-- The first offending line ends the reading, whatever follows it. -/
theorem ofLines_of_offending (sound : ∀ earlier ∈ before, ¬IsOffending earlier)
    (offending : IsOffending line) :
    ofLines path number (before ++ line :: after) =
      .error (.malformedList path (number + before.length) (String.ofList line)) := by
  induction before generalizing number with
  | nil => exact ofLines_offending offending
  | cons first rest ih =>
    obtain ⟨soundFirst, others⟩ := List.forall_mem_cons.1 sound
    have next : ofLines path (number + 1) (rest ++ line :: after) = _ := ih others
    rw [Nat.add_right_comm] at next
    rw [List.cons_append, List.length_cons, ← Nat.add_assoc]
    by_cases entry : IsEntry first
    · rw [ofLines_entry entry soundFirst, next]
      rfl
    · rw [ofLines_skipped entry, next]

/-- Lines have no offending line, or a first one. -/
theorem sound_or_offending (lines : List (List Char)) :
    (∀ line ∈ lines, ¬IsOffending line) ∨
      ∃ before line after, lines = before ++ line :: after ∧
        (∀ earlier ∈ before, ¬IsOffending earlier) ∧ IsOffending line := by
  induction lines with
  | nil => exact .inl (by simp)
  | cons line rest ih =>
    by_cases offending : IsOffending line
    · exact .inr ⟨[], line, rest, rfl, by simp, offending⟩
    · rcases ih with sound | ⟨before, first, after, rfl, sound, found⟩
      · exact .inl (List.forall_mem_cons.2 ⟨offending, sound⟩)
      · exact .inr ⟨line :: before, first, after, rfl, List.forall_mem_cons.2 ⟨offending, sound⟩,
          found⟩

theorem ofLines_eq_ok_iff {lines : List (List Char)} :
    ofLines path number lines = .ok values ↔
      (∀ line ∈ lines, ¬IsOffending line) ∧ values = entries lines := by
  constructor
  · intro h
    rcases sound_or_offending lines with sound | ⟨before, line, after, rfl, sound, offending⟩
    · rw [ofLines_of_sound sound] at h
      exact ⟨sound, (Except.ok.inj h).symm⟩
    · rw [ofLines_of_offending sound offending] at h
      cases h
  · rintro ⟨sound, rfl⟩
    exact ofLines_of_sound sound

theorem ofLines_eq_error_iff {lines : List (List Char)} :
    ofLines path number lines = .error failure ↔
      ∃ before line after, lines = before ++ line :: after ∧
        (∀ earlier ∈ before, ¬IsOffending earlier) ∧ IsOffending line ∧
          failure = .malformedList path (number + before.length) (String.ofList line) := by
  constructor
  · intro h
    rcases sound_or_offending lines with sound | ⟨before, line, after, rfl, sound, offending⟩
    · rw [ofLines_of_sound sound] at h
      cases h
    · rw [ofLines_of_offending sound offending] at h
      exact ⟨before, line, after, rfl, sound, offending, (Except.error.inj h).symm⟩
  · rintro ⟨before, line, after, rfl, sound, offending, rfl⟩
    exact ofLines_of_offending sound offending

end Rulebook.ValueList
