import Mathlib.Data.List.DropRight
import Rulebook.Proofs.Document.Passage
import Rulebook.Proofs.Text.Lines

/-!
# What can be read

The values of a document that was read are never arbitrary texts: the scan removes blanks, splits at
commas, drops empty tokens and trims brackets.  `Document.IsSound` collects what is left, and
`Report.isSound_ofLines` says that whatever is read is sound.
-/

namespace Rulebook

-- Only the characters of the text are looked at, not all characters there are.
instance (text : List Char) : Decidable (∀ c ∈ text, Text.isBlank c = false) :=
  decidable_of_iff (text.all (!Text.isBlank ·) = true) (by simp)

/-- A text that can be the label between the brackets of a header. It may be empty. -/
structure IsLabel (text : String) : Prop where
  blankFree : ∀ c ∈ text.toList, Text.isBlank c = false
  opening : text.toList.head? ≠ some '['
  closing : text.toList.getLast? ≠ some ']'

/-- A text that can be a token between commas. -/
structure IsAtom (text : String) : Prop where
  nonempty : text.toList ≠ []
  blankFree : ∀ c ∈ text.toList, Text.isBlank c = false
  commaFree : ',' ∉ text.toList

structure DestinationLine.IsSound (line : DestinationLine) : Prop where
  destination : IsAtom line.destination
  nonempty : line.ports ≠ []
  ports : ∀ port ∈ line.ports, IsAtom port

structure Stanza.IsSound (stanza : Stanza) : Prop where
  source : IsLabel stanza.source
  destinations : ∀ line ∈ stanza.destinations, line.IsSound

def Document.IsSound (document : Document) : Prop :=
  ∀ stanza ∈ document.stanzas, stanza.IsSound

instance (text : String) : Decidable (IsLabel text) :=
  decidable_of_iff (_ ∧ _ ∧ _)
    ⟨fun ⟨blankFree, opening, closing⟩ ↦ ⟨blankFree, opening, closing⟩,
      fun h ↦ ⟨h.blankFree, h.opening, h.closing⟩⟩

instance (text : String) : Decidable (IsAtom text) :=
  decidable_of_iff (_ ∧ _ ∧ _)
    ⟨fun ⟨nonempty, blankFree, commaFree⟩ ↦ ⟨nonempty, blankFree, commaFree⟩,
      fun h ↦ ⟨h.nonempty, h.blankFree, h.commaFree⟩⟩

instance (line : DestinationLine) : Decidable line.IsSound :=
  decidable_of_iff (_ ∧ _ ∧ _)
    ⟨fun ⟨destination, nonempty, ports⟩ ↦ ⟨destination, nonempty, ports⟩,
      fun h ↦ ⟨h.destination, h.nonempty, h.ports⟩⟩

namespace LineKind

variable {line : List Char}

/-- The brackets of a label are trimmed from the left first, then from the right. -/
theorem toList_label (line : List Char) :
    (label line).toList = (line.dropWhile (· == '[')).rdropWhile (· == ']') := by
  rw [label, String.toList_ofList, List.rdropWhile]

theorem isLabel_label (h : ∀ c ∈ line, Text.isBlank c = false) : IsLabel (label line) := by
  have inner : (label line).toList <+: line.dropWhile (· == '[') := by
    rw [toList_label]
    exact List.rdropWhile_prefix ..
  refine ⟨fun c mem ↦ h c ((List.dropWhile_suffix _).mem (inner.mem mem)), ?_, ?_⟩
  · intro opening
    obtain ⟨rest, split⟩ := inner
    have head := List.head?_dropWhile_not (· == '[') line
    rw [← split, List.head?_append, opening] at head
    simp at head
  · intro closing
    rw [toList_label] at closing
    have nonempty : (line.dropWhile (· == '[')).rdropWhile (· == ']') ≠ [] := by
      intro empty
      simp [empty] at closing
    rw [List.getLast?_eq_some_getLast nonempty, Option.some.injEq] at closing
    exact List.rdropWhile_last_not _ _ nonempty (by simp [closing])

/-- Brackets around a label are trimmed off again, and no more than these. -/
theorem label_brackets {text : String} (h : IsLabel text) :
    label ('[' :: (text.toList ++ [']'])) = text := by
  have left : (text.toList ++ [']']).dropWhile (· == '[') = text.toList ++ [']'] := by
    cases chars : text.toList with
    | nil => rfl
    | cons c rest =>
      have other : c ≠ '[' := by
        rintro rfl
        exact h.opening (by simp [chars])
      exact List.dropWhile_cons_of_neg (by simpa using other)
  have right : text.toList.rdropWhile (· == ']') = text.toList := by
    rw [List.rdropWhile_eq_self_iff]
    intro nonempty closing
    exact h.closing (by simpa [List.getLast?_eq_some_getLast nonempty] using closing)
  rw [← String.toList_inj, toList_label, List.dropWhile_cons_of_pos (by rfl), left,
    List.rdropWhile_concat_pos _ _ _ (by rfl), right]

theorem isAtom_of_mem_tokens (h : ∀ c ∈ line, Text.isBlank c = false) {token : String}
    (isToken : token ∈ tokens line) : IsAtom token := by
  obtain ⟨piece, kept, rfl⟩ := List.mem_map.1 isToken
  obtain ⟨isPiece, nonempty⟩ := List.mem_filter.1 kept
  have chars := Text.mem_of_mem_splitOn isPiece
  refine ⟨by simpa using nonempty, fun c mem ↦ h c (chars c ?_).1, fun mem ↦ (chars ',' ?_).2 rfl⟩
  all_goals simpa using mem

theorem eq_label_of_ofLine {label : String} (h : ofLine line = .header label) :
    label = LineKind.label line := by
  unfold ofLine at h
  split at h
  · cases h
  · split at h
    · exact (LineKind.header.inj h).symm
    · cases h

theorem eq_tokens_of_ofLine {tokens : List String} (h : ofLine line = .declaration tokens) :
    tokens = LineKind.tokens line := by
  unfold ofLine at h
  split at h
  · cases h
  · split at h
    · cases h
    · exact (LineKind.declaration.inj h).symm

end LineKind

namespace Passage

theorem isSound_ofLines (source : Option String) (number : Nat) (lines : List (List Char)) :
    (∀ line ∈ (ofLines source number lines).continued, line.IsSound) ∧
      ∀ stanza ∈ (ofLines source number lines).stanzas, stanza.IsSound := by
  induction source, number, lines using ofLines_induction with
  | nil => simp [ofLines, empty]
  | skipped source number line rest kind ih => rwa [ofLines_skipped kind]
  | header source number line rest label kind ih =>
    have isLabel : IsLabel label := by
      rw [LineKind.eq_label_of_ofLine kind]
      exact LineKind.isLabel_label fun _ ↦ Text.isBlank_of_mem_squeeze
    rw [ofLines_header kind]
    refine ⟨by simp [stanza], ?_⟩
    rintro stanza (_ | ⟨_, mem⟩)
    · exact ⟨isLabel, ih.1⟩
    · exact ih.2 stanza mem
  | noHeader number line rest tokens kind ih => rwa [ofLines_noHeader kind]
  | noDestination source number line rest kind ih => rwa [ofLines_noDestination kind]
  | noPorts source number line rest name kind ih => rwa [ofLines_noPorts kind]
  | destination source number line rest name port ports kind ih =>
    have atoms : ∀ token ∈ name :: port :: ports, IsAtom token := by
      rw [LineKind.eq_tokens_of_ofLine kind]
      exact fun _ ↦ LineKind.isAtom_of_mem_tokens fun _ ↦ Text.isBlank_of_mem_squeeze
    rw [ofLines_destination kind]
    refine ⟨?_, ih.2⟩
    rintro line (_ | ⟨_, mem⟩)
    · exact ⟨atoms name List.mem_cons_self, List.cons_ne_nil port ports,
        fun token mem ↦ atoms token (List.mem_cons_of_mem _ mem)⟩
    · exact ih.1 line mem

end Passage

/-- Only sound documents are read. -/
theorem Report.isSound_ofLines (lines : List (List Char)) : (ofLines lines).document.IsSound := by
  rw [Document.IsSound, stanzas_ofLines]
  exact (Passage.isSound_ofLines none 1 lines).2

end Rulebook
