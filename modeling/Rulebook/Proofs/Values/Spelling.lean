import Rulebook.Proofs.Document.Sound
import Rulebook.Proofs.Values.ListFile

/-!
# Two ways to write values down

Values can be joined by commas, or each can have a line of its own in a list file. `Spells` is the
grammar of the list files of some values: comments and empty lines may stand anywhere between them,
and every line may choose its own line end. `ofFile_of_spells` reads all of these files, and
`splitInline_intercalate` the joined values.
-/

namespace Rulebook.ValueList

/-- What ends a line: a line feed, with or without a carriage return before it. -/
inductive IsLineEnd : List Char → Prop where
  | feed : IsLineEnd ['\n']
  | returnFeed : IsLineEnd ['\r', '\n']

/-- A line that stands for no value. -/
inductive IsFiller : List Char → Prop where
  | empty : IsFiller []
  | comment {text : List Char} (newlineFree : '\n' ∉ text) : IsFiller ('#' :: text)

/-- A list file of some values, in order. Only its last line may be left open. -/
inductive Spells : List Char → List String → Prop where
  | openFiller {line : List Char} (filler : IsFiller line) : Spells line []
  | openValue (value : String) : Spells value.toList [value]
  | filler {line ending rest : List Char} {values : List String} (filler : IsFiller line)
      (ends : IsLineEnd ending) (more : Spells rest values) : Spells (line ++ ending ++ rest) values
  | value {ending rest : List Char} {values : List String} (value : String)
      (ends : IsLineEnd ending) (more : Spells rest values) :
      Spells (value.toList ++ ending ++ rest) (value :: values)

/-- A value that can be written down in both ways. -/
structure IsListable (value : String) : Prop extends IsAtom value where
  notComment : value.toList.head? ≠ some '#'

instance (value : String) : Decidable (IsListable value) :=
  decidable_of_iff (IsAtom value ∧ value.toList.head? ≠ some '#')
    ⟨fun ⟨atom, notComment⟩ ↦ ⟨atom, notComment⟩, fun h ↦ ⟨h.toIsAtom, h.notComment⟩⟩

namespace IsListable

variable {value : String}

theorem isEntry (h : IsListable value) : IsEntry value.toList :=
  ⟨h.nonempty, h.notComment⟩

theorem not_isOffending (h : IsListable value) : ¬IsOffending value.toList := by
  rintro ⟨-, c, mem, blank | rfl⟩
  · rw [h.blankFree c mem] at blank
    cases blank
  · exact h.commaFree mem

/-- A line break is a blank. -/
theorem breakFree (h : IsListable value) : '\n' ∉ value.toList ∧ '\r' ∉ value.toList := by
  constructor
  · intro newline
    cases h.blankFree _ newline
  · intro carriage
    cases h.blankFree _ carriage

end IsListable

variable {line ending rest text : List Char} {values : List String} {path : String} {number : Nat}

namespace IsFiller

theorem newlineFree (h : IsFiller line) : '\n' ∉ line := by
  cases h with
  | empty => exact List.not_mem_nil
  | comment newlineFree =>
    rw [List.mem_cons, not_or]
    exact ⟨by decide, newlineFree⟩

theorem not_isEntry (h : IsFiller line) : ¬IsEntry line := by
  rintro ⟨nonempty, notComment⟩
  cases h with
  | empty => exact nonempty rfl
  | comment => exact notComment rfl

/-- A carriage return at the end of a comment belongs to its line end or to the comment. -/
theorem dropReturn (h : IsFiller line) : IsFiller (Text.dropReturn line) := by
  cases h with
  | empty => exact .empty
  | @comment text newlineFree =>
    rw [Text.dropReturn_cons fun _ ↦ by decide]
    exact .comment fun newline ↦ newlineFree (Text.mem_of_mem_dropReturn newline)

end IsFiller

/-- A line comes back from its text, or is read without a carriage return at its end. -/
theorem physicalLines_ended (ends : IsLineEnd ending) (newlineFree : '\n' ∉ line)
    (rest : List Char) : ∃ seen, (seen = line ∨ seen = Text.dropReturn line) ∧
      Text.physicalLines (line ++ ending ++ rest) = seen :: Text.physicalLines rest := by
  cases ends with
  | feed =>
    rw [List.append_assoc, List.singleton_append, Text.physicalLines_append_newline newlineFree]
    exact ⟨_, .inr rfl, rfl⟩
  | returnFeed =>
    have withReturn : '\n' ∉ line ++ ['\r'] := by
      rw [List.mem_append, not_or]
      exact ⟨newlineFree, by decide⟩
    refine ⟨line, .inl rfl, ?_⟩
    calc Text.physicalLines (line ++ ['\r', '\n'] ++ rest)
        = Text.physicalLines (line ++ ['\r'] ++ '\n' :: rest) := by simp
      _ = Text.dropReturn (line ++ ['\r']) :: Text.physicalLines rest :=
        Text.physicalLines_append_newline withReturn rest
      _ = line :: Text.physicalLines rest := by rw [Text.dropReturn_concat]

theorem ofLines_filler (filler : IsFiller line) (ends : IsLineEnd ending) :
    ofLines path number (Text.physicalLines (line ++ ending ++ rest)) =
      ofLines path (number + 1) (Text.physicalLines rest) := by
  obtain ⟨seen, isLine, lines⟩ := physicalLines_ended ends filler.newlineFree rest
  have skipped : ¬IsEntry seen := by
    rcases isLine with rfl | rfl
    · exact filler.not_isEntry
    · exact filler.dropReturn.not_isEntry
  rw [lines, ofLines_skipped skipped]

theorem ofLines_value {value : String} (listable : IsListable value) (ends : IsLineEnd ending) :
    ofLines path number (Text.physicalLines (value.toList ++ ending ++ rest)) =
      (ofLines path (number + 1) (Text.physicalLines rest)).map (value :: ·) := by
  obtain ⟨newlineFree, returnFree⟩ := listable.breakFree
  obtain ⟨seen, isLine, lines⟩ := physicalLines_ended ends newlineFree rest
  obtain rfl : seen = value.toList := by
    rcases isLine with same | same
    · exact same
    · rw [same, Text.dropReturn_eq_self returnFree]
  rw [lines, ofLines_entry listable.isEntry listable.not_isOffending, String.ofList_toList]

/-- The lines of a list file are read to the values that it was written for. -/
theorem ofLines_of_spells (h : Spells text values) (listable : ∀ value ∈ values, IsListable value) :
    ofLines path number (Text.physicalLines text) = .ok values := by
  induction h generalizing number with
  | @openFiller line filler =>
    by_cases empty : line = []
    · subst empty
      rfl
    · rw [Text.physicalLines_open empty filler.newlineFree, ofLines_skipped filler.not_isEntry]
      rfl
  | openValue value =>
    have this := listable value List.mem_cons_self
    rw [Text.physicalLines_open this.nonempty this.breakFree.1,
      ofLines_entry this.isEntry this.not_isOffending, String.ofList_toList]
    rfl
  | filler filler ends _ ih => rw [ofLines_filler filler ends, ih listable]
  | value value ends _ ih =>
    obtain ⟨here, later⟩ := List.forall_mem_cons.1 listable
    rw [ofLines_value here ends, ih later]
    rfl

theorem ofFile_of_spells {content : String} (h : Spells content.toList values)
    (listable : ∀ value ∈ values, IsListable value) : ofFile path content = .ok values :=
  ofLines_of_spells h listable

/-- Values without commas come back from the text that joins them. -/
theorem splitInline_intercalate (nonempty : values ≠ [])
    (commaFree : ∀ value ∈ values, ',' ∉ value.toList) :
    splitInline (",".intercalate values) = values := by
  have pieces : ([','].intercalate (values.map String.toList)).splitOn ',' =
      values.map String.toList :=
    List.splitOn_intercalate ',' (by simpa using commaFree) (by simpa using nonempty)
  have joined : (",".intercalate values).toList = [','].intercalate (values.map String.toList) := by
    simp
  rw [splitInline, joined, pieces, List.map_map]
  simp [Function.comp_def]

end Rulebook.ValueList
