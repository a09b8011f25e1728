import Mathlib.Tactic.Common
import Rulebook.Toml.Quoted

/-!
# What is written between quotation marks

A string is never longer than what is written for it, and shorter as soon as something is escaped.
So a text that is put between quotation marks as it stands is read back only if it means itself:
`isPlain_of_string?`, with `string?_of_isPlain` for the other direction.
-/

namespace Rulebook.Toml

/-- A character that means itself between quotation marks: it neither ends the string nor begins an
escape, and is no control character other than a tab. -/
structure IsPlainChar (c : Char) : Prop where
  notQuote : c ≠ '"'
  notBackslash : c ≠ '\\'
  notControl : c = '\t' ∨ 0x20 ≤ c.toNat
  notDelete : c.toNat ≠ 0x7F

theorem isPlainChar_iff {c : Char} : IsPlainChar c ↔
    c ≠ '"' ∧ c ≠ '\\' ∧ (c = '\t' ∨ 0x20 ≤ c.toNat) ∧ c.toNat ≠ 0x7F :=
  ⟨fun h ↦ ⟨h.notQuote, h.notBackslash, h.notControl, h.notDelete⟩,
    fun ⟨notQuote, notBackslash, notControl, notDelete⟩ ↦
      ⟨notQuote, notBackslash, notControl, notDelete⟩⟩

instance (c : Char) : Decidable (IsPlainChar c) :=
  decidable_of_iff' _ isPlainChar_iff

/-- A text that needs no escapes. -/
def IsPlain (text : List Char) : Prop :=
  ∀ c ∈ text, IsPlainChar c

instance (text : List Char) : Decidable (IsPlain text) :=
  List.decidableBAll IsPlainChar text

variable {c : Char} {text content rest : List Char} {count : Nat}

theorem isControl_eq_false_iff :
    isControl c = false ↔ (c = '\t' ∨ 0x20 ≤ c.toNat) ∧ c.toNat ≠ 0x7F := by
  rw [isControl, Bool.or_eq_false_iff, Bool.and_eq_false_iff, decide_eq_false_iff_not, Nat.not_lt,
    bne_eq_false_iff_eq, beq_eq_false_iff_ne, or_comm]

theorem push_eq_some_iff {read : Option (List Char × List Char)} :
    push c read = some (content, rest) ↔
      ∃ inner, read = some (inner, rest) ∧ content = c :: inner := by
  rw [push, Option.map_eq_some_iff]
  constructor
  · rintro ⟨⟨inner, left⟩, isRead, same⟩
    obtain ⟨rfl, rfl⟩ := Prod.mk.inj same
    exact ⟨inner, isRead, rfl⟩
  · rintro ⟨inner, isRead, rfl⟩
    exact ⟨(inner, rest), isRead, rfl⟩

/-- An escape takes at least one character after its backslash. -/
theorem pos_of_escape? (h : escape? text = some (c, count)) : 0 < count := by
  unfold escape? at h
  split at h
  case h_12 => cases h
  all_goals
    simp only [Option.some.injEq, Prod.mk.injEq, Option.map_eq_some_iff] at h
    omega

/-! ## Strings on one line -/

theorem basic_append (plain : IsPlain text) (rest : List Char) :
    basic (text ++ '"' :: rest) = some (text, rest) := by
  induction text with
  | nil => rw [List.nil_append, basic]
  | cons c text ih =>
    obtain ⟨here, later⟩ := List.forall_mem_cons.1 plain
    have control : isControl c = false :=
      isControl_eq_false_iff.2 ⟨here.notControl, here.notDelete⟩
    rw [List.cons_append, basic.eq_4 c _ here.notQuote here.notBackslash, control, ih later]
    rfl

/-- A string ends before a quotation mark and is no longer than what stands there. -/
theorem exists_of_basic (h : basic text = some (content, rest)) :
    ∃ before, text = before ++ '"' :: rest ∧ content.length ≤ before.length := by
  fun_induction basic text generalizing content with
  | case1 | case4 | case5 => cases h
  | case2 after =>
    obtain ⟨rfl, rfl⟩ := Prod.mk.inj (Option.some.inj h)
    exact ⟨[], rfl, Nat.le_refl 0⟩
  | case3 after c count escaped ih =>
    obtain ⟨inner, read, rfl⟩ := push_eq_some_iff.1 h
    obtain ⟨before, split, short⟩ := ih read
    refine ⟨'\\' :: (after.take count ++ before), ?_, ?_⟩
    · rw [List.cons_append, List.append_assoc, ← split, List.take_append_drop]
    · simp only [List.length_cons, List.length_append]
      omega
  | case6 c after _ _ _ ih =>
    obtain ⟨inner, read, rfl⟩ := push_eq_some_iff.1 h
    obtain ⟨before, rfl, short⟩ := ih read
    exact ⟨c :: before, rfl, Nat.succ_le_succ short⟩

/-- An escape shortens a string, which then cannot be as long as what is written up to the last
quotation mark. -/
theorem length_lt_of_escape (escaped : escape? (text ++ ['"', '\n']) = some (c, count))
    (h : basic ((text ++ ['"', '\n']).drop count) = some (content, rest)) :
    content.length < text.length := by
  have positive := pos_of_escape? escaped
  obtain ⟨before, split, short⟩ := exists_of_basic h
  have total := congrArg List.length split
  simp only [List.length_drop, List.length_append, List.length_cons, List.length_nil] at total
  have within : ¬(text ++ ['"', '\n']).length ≤ count := by
    simp only [List.length_append, List.length_cons, List.length_nil]
    omega
  -- The text ends in a line feed, so something is left after the closing quotation mark.
  have left : rest ≠ [] := by
    rintro rfl
    have last : (before ++ ['"']).getLast? = (text ++ ['"', '\n']).getLast? := by
      rw [← split, List.getLast?_drop, if_neg within]
    simp at last
  have := List.length_pos_iff.2 left
  omega

theorem isPlain_of_basic (h : basic (text ++ ['"', '\n']) = some (text, rest)) : IsPlain text := by
  induction text with
  | nil => exact List.forall_mem_nil _
  | cons c text ih =>
    rw [List.cons_append] at h
    by_cases quote : c = '"'
    · subst quote
      rw [basic] at h
      cases h
    by_cases backslash : c = '\\'
    · subst backslash
      rw [basic] at h
      split at h
      case h_1 c count escaped =>
        obtain ⟨inner, read, same⟩ := push_eq_some_iff.1 h
        have short := length_lt_of_escape escaped read
        rw [← (List.cons.inj same).2] at short
        omega
      case h_2 => cases h
    · rw [basic.eq_4 c _ quote backslash] at h
      split_ifs at h with control
      obtain ⟨inner, read, same⟩ := push_eq_some_iff.1 h
      obtain ⟨-, rfl⟩ := List.cons.inj same
      obtain ⟨notControl, notDelete⟩ := isControl_eq_false_iff.1 (Bool.not_eq_true _ ▸ control)
      exact List.forall_mem_cons.2 ⟨⟨quote, backslash, notControl, notDelete⟩, ih read⟩

/-! ## Strings over several lines -/

theorem length_closing {quote : Char} (h : closing quote text = some (content, rest)) :
    content.length ≤ text.length := by
  simp only [closing] at h
  split_ifs at h
  obtain ⟨rfl, -⟩ := Prod.mk.inj (Option.some.inj h)
  exact (List.takeWhile_prefix _).length_le

/-- The three closing quotation marks are never part of the string. -/
theorem length_basicLines (h : basicLines text = some (content, rest)) :
    content.length + 3 ≤ text.length := by
  fun_induction basicLines text generalizing content with
  | case1 | case5 | case8 => cases h
  | case2 after => exact Nat.succ_le_succ (Nat.succ_le_succ (Nat.succ_le_succ (length_closing h)))
  | case3 after next continued ih =>
    have shorter := length_continuation continued
    have := ih h
    rw [List.length_cons]
    omega
  | case4 after _ c count escaped ih =>
    obtain ⟨inner, read, rfl⟩ := push_eq_some_iff.1 h
    have := ih read
    rw [List.length_drop] at this
    simp only [List.length_cons]
    omega
  | case6 after ih =>
    obtain ⟨inner, read, rfl⟩ := push_eq_some_iff.1 h
    exact Nat.succ_le_succ (ih read)
  | case7 after ih =>
    obtain ⟨after, readAfter, rfl⟩ := push_eq_some_iff.1 h
    obtain ⟨inner, read, rfl⟩ := push_eq_some_iff.1 readAfter
    exact Nat.succ_le_succ (Nat.succ_le_succ (ih read))
  | case9 c after _ _ _ _ _ ih =>
    obtain ⟨inner, read, rfl⟩ := push_eq_some_iff.1 h
    exact Nat.succ_le_succ (ih read)

theorem length_afterOpening_le (text : List Char) : (afterOpening text).length ≤ text.length := by
  rw [afterOpening]
  cases found : afterNewline? text with
  | none => exact Nat.le_refl _
  | some rest => exact Nat.le_of_lt (length_afterNewline found)

/-! ## Strings of either kind -/

theorem string?_of_isPlain (plain : IsPlain text) (noQuote : '"' ∉ rest) :
    string? ('"' :: (text ++ '"' :: rest)) = some (text, rest) := by
  rw [string?.eq_2, basic_append plain]
  rintro more split
  cases text with
  | nil =>
    obtain ⟨-, rfl⟩ := List.cons.inj split
    exact noQuote List.mem_cons_self
  | cons c text =>
    obtain ⟨rfl, -⟩ := List.cons.inj split
    exact (plain _ List.mem_cons_self).notQuote rfl

/-- A text that was put between quotation marks on a line is read back only if it is plain. -/
theorem isPlain_of_string? (h : string? ('"' :: (text ++ ['"', '\n'])) = some (text, rest)) :
    IsPlain text := by
  by_cases several : ∃ more, text ++ ['"', '\n'] = '"' :: '"' :: more
  · obtain ⟨more, split⟩ := several
    rw [split, string?] at h
    have total := congrArg List.length split
    have read := length_basicLines h
    have opened := length_afterOpening_le more
    simp only [List.length_append, List.length_cons, List.length_nil] at total
    omega
  · rw [string?.eq_2 _ fun more split ↦ several ⟨more, split⟩] at h
    exact isPlain_of_basic h

end Rulebook.Toml
