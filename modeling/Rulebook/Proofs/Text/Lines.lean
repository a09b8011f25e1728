import Rulebook.Text.Lines

/-!
# Lines and line feeds

`physicalLines_eq` says what the physical lines of a text are without following the text: they are
its pieces between the line feeds.  Conversely, `physicalLines_flatMap` reads lines back from the
text in which each is ended by a line feed.
-/

namespace Rulebook.Text

/-- A piece has characters of the text only, and never the one that ends a piece. -/
theorem mem_of_mem_splitOn {sep : Char} {text piece : List Char} (h : piece ∈ text.splitOn sep) :
    ∀ c ∈ piece, c ∈ text ∧ c ≠ sep := by
  induction text generalizing piece with
  | nil =>
    rw [List.splitOn_nil, List.mem_singleton] at h
    simp [h]
  | cons d text ih =>
    rw [List.splitOn_cons_eq_if_modifyHead] at h
    intro c mem
    split at h
    case isTrue =>
      rcases List.mem_cons.1 h with rfl | h
      · cases mem
      · exact ⟨List.mem_cons_of_mem _ (ih h c mem).1, (ih h c mem).2⟩
    case isFalse other =>
      obtain ⟨first, pieces, split⟩ := List.exists_cons_of_ne_nil (List.splitOn_ne_nil sep text)
      rw [split] at ih h
      rcases List.mem_cons.1 h with rfl | h
      · rcases List.mem_cons.1 mem with rfl | mem
        · exact ⟨List.mem_cons_self, by simpa using other⟩
        · have inner := ih List.mem_cons_self c mem
          exact ⟨List.mem_cons_of_mem _ inner.1, inner.2⟩
      · have inner := ih (List.mem_cons_of_mem _ h) c mem
        exact ⟨List.mem_cons_of_mem _ inner.1, inner.2⟩

theorem sep_notMem_of_mem_splitOn {sep : Char} {text piece : List Char}
    (h : piece ∈ text.splitOn sep) : sep ∉ piece :=
  fun mem ↦ (mem_of_mem_splitOn h sep mem).2 rfl

/-- Joined texts begin with the first, and each of the others stands after a separator. -/
theorem intercalate_cons (sep : Char) (first : List Char) (rest : List (List Char)) :
    [sep].intercalate (first :: rest) = first ++ rest.flatMap (sep :: ·) := by
  induction rest generalizing first with
  | nil => simp
  | cons next rest ih => rw [List.intercalate_cons_cons, ih]; simp

/-- A text comes back from its pieces, but with a line feed after the last of them. -/
theorem flatMap_splitOn (text : List Char) :
    (text.splitOn '\n').flatMap (· ++ ['\n']) = text ++ ['\n'] := by
  induction text with
  | nil => rfl
  | cons c text ih =>
    obtain ⟨piece, pieces, split⟩ := List.exists_cons_of_ne_nil (List.splitOn_ne_nil '\n' text)
    rw [split] at ih
    rw [List.splitOn_cons_eq_if_modifyHead]
    by_cases newline : c = '\n'
    · simp [newline, split, ← ih]
    · simpa [newline, split] using ih

/-- The piece without a carriage return at its end. Only one is dropped. -/
def dropReturn (piece : List Char) : List Char :=
  if piece.getLast? = some '\r' then piece.dropLast else piece

theorem mem_of_mem_dropReturn {c : Char} {piece : List Char} (h : c ∈ dropReturn piece) :
    c ∈ piece := by
  rw [dropReturn] at h
  split at h
  · exact List.dropLast_subset piece h
  · exact h

/-- The lines that the pieces between line feeds stand for. Every piece but the last was ended by a
line feed, and the last is a line only if there is something in it. -/
def linesOfPieces : List (List Char) → List (List Char)
  | [] => []
  | [last] => if last = [] then [] else [last]
  | piece :: rest => dropReturn piece :: linesOfPieces rest

theorem linesOfPieces_cons {piece : List Char} {rest : List (List Char)} (h : rest ≠ []) :
    linesOfPieces (piece :: rest) = dropReturn piece :: linesOfPieces rest := by
  cases rest with
  | nil => exact absurd rfl h
  | cons => rfl

theorem dropReturn_cons {c : Char} {piece : List Char} (h : piece = [] → c ≠ '\r') :
    dropReturn (c :: piece) = c :: dropReturn piece := by
  cases piece with
  | nil => simp [dropReturn, h rfl]
  | cons d piece =>
    simp only [dropReturn, List.getLast?_cons_cons, List.dropLast_cons_cons]
    split <;> rfl

/-- A character that belongs to the first piece belongs to the first line, unless it is the carriage
return before the first line feed. -/
theorem linesOfPieces_cons_char {c : Char} {piece : List Char} {rest : List (List Char)}
    (h : piece = [] → rest ≠ [] → c ≠ '\r') :
    linesOfPieces ((c :: piece) :: rest) =
      match linesOfPieces (piece :: rest) with
      | [] => [[c]]
      | line :: lines => (c :: line) :: lines := by
  cases rest with
  | nil => cases piece <;> rfl
  | cons next rest =>
    have more : next :: rest ≠ [] := List.cons_ne_nil next rest
    rw [linesOfPieces_cons more, linesOfPieces_cons more, dropReturn_cons fun empty ↦ h empty more]

/-- An empty first piece that is not the only one stands before a line feed. -/
theorem exists_eq_cons_of_splitOn {text : List Char} {rest : List (List Char)}
    (h : text.splitOn '\n' = [] :: rest) (more : rest ≠ []) : ∃ tail, text = '\n' :: tail := by
  cases text with
  | nil =>
    rw [List.splitOn_nil, List.cons.injEq] at h
    exact absurd h.2.symm more
  | cons c tail =>
    rw [List.splitOn_cons_eq_if_modifyHead] at h
    split at h
    case isTrue newline => exact ⟨tail, by rw [beq_iff_eq.1 newline]⟩
    case isFalse =>
      obtain ⟨piece, pieces, split⟩ := List.exists_cons_of_ne_nil (List.splitOn_ne_nil '\n' tail)
      simp [split] at h

theorem physicalLines_cons_eq {c : Char} {rest : List Char} (newline : c ≠ '\n')
    (carriage : c = '\r' → ∀ tail, rest ≠ '\n' :: tail)
    (ih : physicalLines rest = linesOfPieces (rest.splitOn '\n')) :
    physicalLines (c :: rest) = linesOfPieces ((c :: rest).splitOn '\n') := by
  obtain ⟨piece, pieces, split⟩ := List.exists_cons_of_ne_nil (List.splitOn_ne_nil '\n' rest)
  have splitCons : (c :: rest).splitOn '\n' = (c :: piece) :: pieces := by
    rw [List.splitOn_cons_eq_if_modifyHead, if_neg (by simpa using newline), split,
      List.modifyHead_cons]
  have inner : piece = [] → pieces ≠ [] → c ≠ '\r' := by
    rintro rfl more isReturn
    obtain ⟨tail, atBreak⟩ := exists_eq_cons_of_splitOn split more
    exact carriage isReturn tail atBreak
  rw [splitCons, linesOfPieces_cons_char inner, ← split, ← ih]
  exact physicalLines.eq_4 c rest newline fun tail isReturn ↦ carriage isReturn tail

/-- The lines of a text are its pieces between the line feeds, each without a carriage return
before its line feed. -/
theorem physicalLines_eq (text : List Char) :
    physicalLines text = linesOfPieces (text.splitOn '\n') := by
  induction text using physicalLines.induct with
  | case1 => simp [linesOfPieces]
  | case2 rest ih =>
    rw [physicalLines_newline, List.splitOn_cons_eq_if_modifyHead, ih]
    simp [linesOfPieces_cons, List.splitOn_ne_nil, dropReturn]
  | case3 rest ih =>
    rw [physicalLines, List.splitOn_cons_eq_if_modifyHead, List.splitOn_cons_eq_if_modifyHead, ih]
    simp [linesOfPieces_cons, List.splitOn_ne_nil, dropReturn]
  | case4 c rest newline carriage _ ih | case5 c rest newline carriage _ _ _ ih =>
    exact physicalLines_cons_eq newline (fun isReturn tail ↦ carriage tail isReturn) ih

theorem newlineFree_linesOfPieces {pieces : List (List Char)} (h : ∀ piece ∈ pieces, '\n' ∉ piece) :
    ∀ line ∈ linesOfPieces pieces, '\n' ∉ line := by
  fun_induction linesOfPieces pieces with
  | case1 | case2 => exact List.forall_mem_nil _
  | case3 => exact h
  | case4 piece rest _ ih =>
    obtain ⟨here, later⟩ := List.forall_mem_cons.1 h
    exact List.forall_mem_cons.2 ⟨fun newline ↦ here (mem_of_mem_dropReturn newline), ih later⟩

/-- A line holds no line feed. It may hold carriage returns. -/
theorem newlineFree_physicalLines (text : List Char) : ∀ line ∈ physicalLines text, '\n' ∉ line := by
  rw [physicalLines_eq]
  exact newlineFree_linesOfPieces fun _ isPiece ↦ sep_notMem_of_mem_splitOn isPiece

theorem dropReturn_concat (line : List Char) : dropReturn (line ++ ['\r']) = line := by
  rw [dropReturn, List.getLast?_concat, if_pos rfl, List.dropLast_concat]

theorem dropReturn_eq_self {line : List Char} (h : '\r' ∉ line) : dropReturn line = line :=
  if_neg fun last ↦ h (List.mem_of_getLast? last)

/-- The text of a line up to its line feed makes one line, without a carriage return at its end. -/
theorem physicalLines_append_newline {line : List Char} (newlineFree : '\n' ∉ line)
    (rest : List Char) :
    physicalLines (line ++ '\n' :: rest) = dropReturn line :: physicalLines rest := by
  rw [physicalLines_eq, physicalLines_eq, List.splitOn_append_cons_self,
    List.splitOn_eq_singleton newlineFree, List.singleton_append,
    linesOfPieces_cons (List.splitOn_ne_nil '\n' rest)]

/-- A last line without a line feed is kept as it stands. -/
theorem physicalLines_open {line : List Char} (nonempty : line ≠ []) (newlineFree : '\n' ∉ line) :
    physicalLines line = [line] := by
  rw [physicalLines_eq, List.splitOn_eq_singleton newlineFree, linesOfPieces, if_neg nonempty]

/-- A text of whole lines: the last of them, if there is one, is ended by a line feed. -/
def IsWhole (text : List Char) : Prop :=
  text = [] ∨ text.getLast? = some '\n'

instance (text : List Char) : Decidable (IsWhole text) :=
  inferInstanceAs (Decidable (_ ∨ _))

theorem IsWhole.append_newline (before line : List Char) : IsWhole (before ++ line ++ ['\n']) :=
  .inr List.getLast?_concat

/-- Whole lines are split alone. -/
theorem IsWhole.exists_splitOn {text : List Char} (h : IsWhole text) :
    ∃ pieces, ∀ rest, (text ++ rest).splitOn '\n' = pieces ++ rest.splitOn '\n' := by
  rcases h with rfl | ended
  · exact ⟨[], fun _ ↦ rfl⟩
  · obtain ⟨line, rfl⟩ := List.getLast?_eq_some_iff.1 ended
    refine ⟨line.splitOn '\n', fun rest ↦ ?_⟩
    rw [List.append_assoc, List.singleton_append, List.splitOn_append_cons_self]

theorem linesOfPieces_append (pieces : List (List Char)) {rest : List (List Char)}
    (h : rest ≠ []) :
    linesOfPieces (pieces ++ rest) = pieces.map dropReturn ++ linesOfPieces rest := by
  induction pieces with
  | nil => rfl
  | cons piece pieces ih =>
    have more : pieces ++ rest ≠ [] := List.append_ne_nil_of_right_ne_nil pieces h
    rw [List.cons_append, linesOfPieces_cons more, ih]
    rfl

/-- What follows whole lines makes lines of its own. -/
theorem physicalLines_append {text : List Char} (h : IsWhole text) (rest : List Char) :
    physicalLines (text ++ rest) = physicalLines text ++ physicalLines rest := by
  obtain ⟨pieces, split⟩ := h.exists_splitOn
  have read (rest : List Char) :
      physicalLines (text ++ rest) = pieces.map dropReturn ++ physicalLines rest := by
    rw [physicalLines_eq, physicalLines_eq, split,
      linesOfPieces_append _ (List.splitOn_ne_nil '\n' rest)]
  have alone := read []
  rw [physicalLines_nil, List.append_nil, List.append_nil] at alone
  rw [read, alone]

/-- Lines without line breaks come back from the text in which each is ended by a line feed. -/
theorem physicalLines_flatMap {lines : List (List Char)}
    (h : ∀ line ∈ lines, '\n' ∉ line ∧ '\r' ∉ line) :
    physicalLines (lines.flatMap (· ++ ['\n'])) = lines := by
  induction lines with
  | nil => rfl
  | cons line lines ih =>
    obtain ⟨newline, carriage⟩ := h line List.mem_cons_self
    rw [List.flatMap_cons, List.append_assoc, List.singleton_append,
      physicalLines_line newline carriage, ih fun other mem ↦ h other (List.mem_cons_of_mem _ mem)]

/-! ## Line feeds written in another way -/

/-- The text with a carriage return before each of its line feeds. -/
def withReturns (text : List Char) : List Char :=
  text.flatMap fun c ↦ if c = '\n' then ['\r', '\n'] else [c]

theorem withReturns_newline (text : List Char) :
    withReturns ('\n' :: text) = '\r' :: '\n' :: withReturns text :=
  rfl

theorem withReturns_cons {c : Char} (h : c ≠ '\n') (text : List Char) :
    withReturns (c :: text) = c :: withReturns text := by
  rw [withReturns, List.flatMap_cons, if_neg h, List.singleton_append, withReturns]

theorem physicalLines_return_newline (rest : List Char) :
    physicalLines ('\r' :: '\n' :: rest) = [] :: physicalLines rest := by
  rw [physicalLines]

/-- A carriage return that is put before a line feed belongs to no line. -/
theorem physicalLines_withReturns {text : List Char} (h : '\r' ∉ text) :
    physicalLines (withReturns text) = physicalLines text := by
  induction text with
  | nil => rfl
  | cons c text ih =>
    rw [List.mem_cons, not_or] at h
    obtain ⟨notReturn, later⟩ := h
    by_cases newline : c = '\n'
    · subst newline
      rw [withReturns_newline, physicalLines_return_newline, physicalLines_newline, ih later]
    · have other : ∀ rest tail : List Char, c = '\r' → rest = '\n' :: tail → False :=
        fun _ _ isReturn ↦ absurd isReturn.symm notReturn
      rw [withReturns_cons newline, physicalLines.eq_4 c _ newline (other _), ih later,
        physicalLines.eq_4 c _ newline (other _)]

/-- A line feed at the end of a text finishes its last line, or makes an empty one. -/
theorem physicalLines_concat_newline {text : List Char} (h : '\r' ∉ text) :
    physicalLines (text ++ ['\n']) = physicalLines text ∨
      physicalLines (text ++ ['\n']) = physicalLines text ++ [[]] := by
  obtain ⟨pieces, last, split⟩ :=
    List.eq_nil_or_concat (text.splitOn '\n') |>.resolve_left (List.splitOn_ne_nil '\n' text)
  rw [List.concat_eq_append] at split
  have isPiece : last ∈ text.splitOn '\n' := by
    rw [split]
    exact List.mem_append_right _ (List.mem_singleton_self last)
  have kept : dropReturn last = last :=
    dropReturn_eq_self fun mem ↦ h (mem_of_mem_splitOn isPiece _ mem).1
  have ended : physicalLines (text ++ ['\n']) = pieces.map dropReturn ++ [last] := by
    rw [physicalLines_eq, List.splitOn_append_cons_self, split, List.append_assoc,
      linesOfPieces_append _ (by simp)]
    simp [linesOfPieces, kept]
  have unended : physicalLines text = pieces.map dropReturn ++ linesOfPieces [last] := by
    rw [physicalLines_eq, split, linesOfPieces_append _ (by simp)]
  rw [ended, unended, linesOfPieces]
  by_cases empty : last = []
  · right
    rw [if_pos empty, empty, List.append_nil]
  · left
    rw [if_neg empty]

end Rulebook.Text
