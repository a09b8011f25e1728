import Rulebook.Expansion
import Rulebook.Proofs.Document.RoundTrip
import Rulebook.ValueList

/-!
# Documents made of value lists

The rules of an expanded document are all combinations of its values, in order.  Values that were
resolved hold no comma, which leaves four conditions under which the document can be read back.
-/

namespace Rulebook

namespace ValueList

variable {path : String} {number : Nat} {lines : List (List Char)} {values : List String}

theorem commaFree_splitInline (argument : String) :
    ∀ value ∈ splitInline argument, ',' ∉ value.toList := by
  intro value mem
  obtain ⟨piece, isPiece, rfl⟩ := List.mem_map.1 mem
  rw [String.toList_ofList]
  exact Text.sep_notMem_of_mem_splitOn isPiece

/-- A line that is no comment is a value only if it has no comma. -/
theorem commaFree_ofLines (h : ofLines path number lines = .ok values) :
    ∀ value ∈ values, ',' ∉ value.toList := by
  induction lines generalizing number values with
  | nil => simp [Except.ok.inj h.symm]
  | cons line rest ih =>
    rw [ofLines] at h
    split_ifs at h with skipped malformed
    · exact ih h
    · cases found : ofLines path (number + 1) rest with
      | error failure => simp [found] at h
      | ok others =>
        rw [found] at h
        have single : ',' ∉ line := by
          intro comma
          exact malformed (List.any_eq_true.2 ⟨',', comma, by simp⟩)
        obtain rfl : String.ofList line :: others = values := Except.ok.inj h
        rintro value (_ | ⟨_, mem⟩)
        · simpa using single
        · exact ih found value mem

end ValueList

namespace ValueLists

/-- Without ports there are neither lines nor combinations. -/
theorem flatMap_rules_destinationLines (lists : ValueLists) (source : String) :
    (lists.destinationLines.flatMap fun line ↦ line.rules source) =
      lists.destinations.flatMap fun destination ↦
        lists.ports.map fun port ↦ ⟨source, destination, port⟩ := by
  rw [destinationLines]
  split
  case isTrue empty =>
    rw [List.isEmpty_iff.1 empty]
    exact (List.flatMap_eq_nil_iff.2 fun _ _ ↦ rfl).symm
  case isFalse => simp [List.flatMap_map, DestinationLine.rules]

/-- Every source goes with every destination and every port. -/
theorem rules_expand (lists : ValueLists) :
    lists.expand.rules = lists.sources.flatMap fun source ↦
      lists.destinations.flatMap fun destination ↦
        lists.ports.map fun port ↦ ⟨source, destination, port⟩ := by
  simp [expand, Document.rules, Stanza.rules, List.flatMap_map, flatMap_rules_destinationLines]

structure CommaFree (lists : ValueLists) : Prop where
  destinations : ∀ destination ∈ lists.destinations, ',' ∉ destination.toList
  ports : ∀ port ∈ lists.ports, ',' ∉ port.toList

/-- The combinations of the values can be written down and read back. -/
structure IsReadable (lists : ValueLists) : Prop where
  sources : ∀ source ∈ lists.sources, IsLabel source
  destinations : ∀ destination ∈ lists.destinations, destination.toList ≠ [] ∧
    (∀ c ∈ destination.toList, Text.isBlank c = false) ∧ destination.toList.head? ≠ some '#'
  ports : ∀ port ∈ lists.ports, port.toList ≠ [] ∧ ∀ c ∈ port.toList, Text.isBlank c = false
  brackets : ¬((∃ destination ∈ lists.destinations, destination.toList.head? = some '[') ∧
    ∃ port ∈ lists.ports.getLast?, port.toList.getLast? = some ']')

instance (lists : ValueLists) : Decidable lists.IsReadable :=
  decidable_of_iff (_ ∧ _ ∧ _ ∧ ¬(_ ∧ ∃ port ∈ lists.ports.getLast?, _))
    ⟨fun ⟨sources, destinations, ports, brackets⟩ ↦ ⟨sources, destinations, ports, brackets⟩,
      fun h ↦ ⟨h.sources, h.destinations, h.ports, h.brackets⟩⟩

theorem mem_destinationLines {lists : ValueLists} {line : DestinationLine} :
    line ∈ lists.destinationLines ↔
      lists.ports ≠ [] ∧ line.destination ∈ lists.destinations ∧ line.ports = lists.ports := by
  obtain ⟨destination, ports⟩ := line
  rw [destinationLines]
  split
  case isTrue empty => simp [List.isEmpty_iff.1 empty]
  case isFalse nonempty =>
    simp [List.isEmpty_iff.not.1 nonempty, eq_comm]

theorem IsReadable.expand {lists : ValueLists} (h : lists.IsReadable) (commas : lists.CommaFree) :
    lists.expand.IsReadable := by
  intro stanza mem
  obtain ⟨source, isSource, rfl⟩ := List.mem_map.1 mem
  refine ⟨h.sources source isSource, fun line isLine ↦ ?_⟩
  obtain ⟨nonempty, isDestination, same⟩ := mem_destinationLines.1 isLine
  obtain ⟨name, blankFree, notComment⟩ := h.destinations _ isDestination
  refine
    { destination := ⟨name, blankFree, commas.destinations _ isDestination⟩
      nonempty := same ▸ nonempty
      ports := fun port isPort ↦ ?_
      notComment := notComment
      notHeader := ?_ }
  · rw [same] at isPort
    exact ⟨(h.ports port isPort).1, (h.ports port isPort).2, commas.ports port isPort⟩
  · rintro ⟨opening, closing⟩
    exact h.brackets ⟨⟨line.destination, isDestination, opening⟩, same ▸ closing⟩

end ValueLists

end Rulebook
