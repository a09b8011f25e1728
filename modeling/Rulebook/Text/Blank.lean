/-! # Blank characters -/

namespace Rulebook.Text

/-- The code point ranges of the Unicode property `White_Space`, in increasing order. -/
def blankRanges : List (Nat × Nat) :=
  [(0x9, 0xD), (0x20, 0x20), (0x85, 0x85), (0xA0, 0xA0), (0x1680, 0x1680), (0x2000, 0x200A),
    (0x2028, 0x2029), (0x202F, 0x202F), (0x205F, 0x205F), (0x3000, 0x3000)]

/-- A blank is a character with the property `White_Space`: line breaks and tabs are blanks, a zero
width space and a byte order mark are not. -/
def isBlank (c : Char) : Bool :=
  blankRanges.any fun range => range.1 ≤ c.toNat && c.toNat ≤ range.2

theorem isBlank_iff {c : Char} :
    isBlank c = true ↔ ∃ range ∈ blankRanges, range.1 ≤ c.toNat ∧ c.toNat ≤ range.2 := by
  simp [isBlank]

/-- Every blank of the ASCII class is a blank here. -/
theorem isBlank_of_isWhitespace {c : Char} (h : c.isWhitespace = true) : isBlank c = true := by
  simp only [Char.isWhitespace, Bool.or_eq_true, decide_eq_true_eq] at h
  rcases h with ((rfl | rfl) | rfl) | rfl <;> rfl

@[simp] theorem isBlank_newline : isBlank '\n' = true := rfl
@[simp] theorem isBlank_carriageReturn : isBlank '\r' = true := rfl
@[simp] theorem isBlank_comma : isBlank ',' = false := rfl
@[simp] theorem isBlank_hash : isBlank '#' = false := rfl
@[simp] theorem isBlank_leftBracket : isBlank '[' = false := rfl
@[simp] theorem isBlank_rightBracket : isBlank ']' = false := rfl

/-- The text without its blanks. -/
def squeeze (text : List Char) : List Char :=
  text.filter fun c => !isBlank c

@[simp] theorem squeeze_nil : squeeze [] = [] := rfl

theorem squeeze_cons_of_isBlank {c : Char} (h : isBlank c = true) (text : List Char) :
    squeeze (c :: text) = squeeze text :=
  List.filter_cons_of_neg (by simpa using h)

theorem squeeze_cons_of_not_isBlank {c : Char} (h : isBlank c = false) (text : List Char) :
    squeeze (c :: text) = c :: squeeze text :=
  List.filter_cons_of_pos (by simpa using h)

theorem squeeze_append (a b : List Char) : squeeze (a ++ b) = squeeze a ++ squeeze b := by
  simp [squeeze]

theorem squeeze_eq_self {text : List Char} (h : ∀ c ∈ text, isBlank c = false) :
    squeeze text = text := by
  simpa [squeeze, List.filter_eq_self] using h

theorem isBlank_of_mem_squeeze {text : List Char} {c : Char} (h : c ∈ squeeze text) :
    isBlank c = false := by
  simpa [squeeze] using (List.mem_filter.1 h).2

theorem squeeze_squeeze (text : List Char) : squeeze (squeeze text) = squeeze text :=
  squeeze_eq_self fun _ => isBlank_of_mem_squeeze

end Rulebook.Text
