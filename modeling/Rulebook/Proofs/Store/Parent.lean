import Mathlib.Data.List.Basic
import Rulebook.Proofs.Text.Lines
import Rulebook.Store.Tree

/-!
# The directory above a file

Before a file is written, the directory above it is asked for by a path of its own.  The text of
that path is a beginning of the text of the file's path (`parentText_isPrefix`), so nothing is wrong
with it unless something is with the whole, and it makes all moves of the file's path but the last
(`moves_parentText`).
-/

namespace Rulebook

/-! ## Moves -/

namespace Step

variable {piece : List Char}

/-- The step that a piece makes, if it leads anywhere. -/
def move? (piece : List Char) : Option Step :=
  (ofPiece? piece).filter (· != .here)

theorem isIdle_iff : isIdle piece = true ↔ move? piece = none := by
  rw [isIdle, move?]
  cases ofPiece? piece <;> simp

theorem filterMap_dropWhile_isIdle (pieces : List (List Char)) :
    (pieces.dropWhile isIdle).filterMap move? = pieces.filterMap move? := by
  induction pieces with
  | nil => rfl
  | cons piece pieces ih =>
    by_cases idle : isIdle piece = true
    · rw [List.dropWhile_cons_of_pos idle, List.filterMap_cons_none (isIdle_iff.1 idle), ih]
    · rw [List.dropWhile_cons_of_neg idle]

/-- The first piece that is not idle makes the first move. -/
theorem filterMap_tail_dropWhile_isIdle (pieces : List (List Char)) :
    (pieces.dropWhile isIdle).tail.filterMap move? = (pieces.filterMap move?).tail := by
  induction pieces with
  | nil => rfl
  | cons piece pieces ih =>
    by_cases idle : isIdle piece = true
    · rw [List.dropWhile_cons_of_pos idle, List.filterMap_cons_none (isIdle_iff.1 idle), ih]
    · obtain ⟨step, moves⟩ := Option.ne_none_iff_exists'.1 (mt isIdle_iff.2 idle)
      rw [List.dropWhile_cons_of_neg idle, List.filterMap_cons_some moves, List.tail_cons,
        List.tail_cons]

end Step

namespace Path

variable {pieces more : List (List Char)}

theorem moves_ofText (text : String) :
    (ofText text).moves = (text.toList.splitOn '/').filterMap Step.move? :=
  List.filter_filterMap

theorem moves_intercalate (slashFree : ∀ piece ∈ pieces, '/' ∉ piece) :
    (ofText (String.ofList (['/'].intercalate pieces))).moves = pieces.filterMap Step.move? := by
  rw [moves_ofText, String.toList_ofList]
  by_cases empty : pieces = []
  · rw [empty]
    rfl
  · rw [List.splitOn_intercalate '/' slashFree empty]

theorem filterMap_beforeLastMove (pieces : List (List Char)) :
    (beforeLastMove pieces).filterMap Step.move? = (pieces.filterMap Step.move?).dropLast := by
  rw [beforeLastMove, List.filterMap_reverse, Step.filterMap_dropWhile_isIdle,
    Step.filterMap_tail_dropWhile_isIdle, List.filterMap_reverse, List.tail_reverse,
    List.reverse_reverse]

/-! ## Texts -/

theorem beforeLastMove_isPrefix (pieces : List (List Char)) : beforeLastMove pieces <+: pieces := by
  have last := List.dropWhile_suffix (l := pieces.reverse) Step.isIdle
  have above := (List.dropWhile_suffix Step.isIdle).trans ((List.tail_suffix _).trans last)
  rw [beforeLastMove, ← List.reverse_suffix, List.reverse_reverse]
  exact above

theorem intercalate_isPrefix (sep : Char) (h : pieces <+: more) :
    [sep].intercalate pieces <+: [sep].intercalate more := by
  obtain ⟨others, rfl⟩ := h
  cases pieces with
  | nil => exact List.nil_prefix
  | cons first rest =>
    rw [List.cons_append, Text.intercalate_cons, Text.intercalate_cons, List.flatMap_append,
      ← List.append_assoc]
    exact List.prefix_append _ _

theorem parentText_isPrefix (text : String) : parentText text <+: text.toList := by
  have chars := intercalate_isPrefix '/' (beforeLastMove_isPrefix (text.toList.splitOn '/'))
  rwa [List.intercalate_splitOn] at chars

/-- The path by which a directory is asked for leads to the directory that is created. -/
theorem moves_parentText (text : String) :
    (ofText (String.ofList (parentText text))).moves = (ofText text).parent := by
  have slashFree : ∀ piece ∈ beforeLastMove (text.toList.splitOn '/'), '/' ∉ piece :=
    fun _ mem ↦ Text.sep_notMem_of_mem_splitOn ((beforeLastMove_isPrefix _).subset mem)
  rw [parentText, moves_intercalate slashFree, filterMap_beforeLastMove, parent, moves_ofText]

-- Around the last move, what leads nowhere does not count, but further up it does.
example : parentText "a//./b/./c/./" = "a//./b".toList := by decide

end Path

/-- If nothing is wrong with a path, the directory above its file can be asked for. -/
theorem Tree.prepare_of_pathFault? {text : String} (h : pathFault? text = none) (tree : Tree) :
    tree.prepare text = tree.ensureDirectory (Path.ofText text).parent.reverse := by
  obtain ⟨more, split⟩ := Path.parentText_isPrefix text
  have isText : String.ofList (Path.parentText text) ++ String.ofList more = text := by
    rw [← String.ofList_append, split, String.ofList_toList]
  rw [pathFault?] at h
  split_ifs at h with nul long
  have noNul : ¬(Path.parentText text).contains '\x00' = true := by
    rw [containsNul, ← split] at nul
    simp only [List.contains_append, Bool.or_eq_true, not_or] at nul
    exact nul.1
  have narrow : ¬maxPathWidth ≤ (String.ofList (Path.parentText text)).utf8ByteSize := by
    rw [← isText, String.utf8ByteSize_append] at long
    omega
  rw [prepare, if_neg noNul, if_neg narrow]

end Rulebook
