import Rulebook.Proofs.Document.Expansion
import Rulebook.Proofs.Document.RuleList

/-!
# Destinations that do not come back

A destination that is written to a document may be read as something else.  `isAmbiguous` notices
this as far as the destination alone decides it.  The brackets of a header are the one case that it
leaves out, since there the last port has a say.
-/

namespace Rulebook

theorem isAmbiguous_eq_false_iff {destination : String} :
    isAmbiguous destination = false ↔ destination.toList ≠ [] ∧
      (∀ c ∈ destination.toList, Text.isBlank c = false) ∧ destination.toList.head? ≠ some '#' := by
  simp only [isAmbiguous, Bool.or_eq_false_iff, List.isEmpty_eq_false_iff, beq_eq_false_iff_ne,
    List.any_eq_false, Bool.not_eq_true]
  tauto

namespace Passage

/-- Lines without a declaration leave every stanza empty. -/
theorem destinations_ofLines {lines : List (List Char)}
    (h : ∀ line ∈ lines, ∀ tokens, LineKind.ofLine (Text.squeeze line) ≠ .declaration tokens)
    (source : Option String) (number : Nat) :
    (ofLines source number lines).continued = [] ∧
      ∀ stanza ∈ (ofLines source number lines).stanzas, stanza.destinations = [] := by
  induction source, number, lines using ofLines_induction with
  | nil => simp [ofLines, empty]
  | skipped source number line rest kind ih =>
    rw [ofLines_skipped kind]
    exact ih (List.forall_mem_cons.1 h).2
  | header source number line rest label kind ih =>
    obtain ⟨continued, stanzas⟩ := ih (List.forall_mem_cons.1 h).2
    rw [ofLines_header kind]
    exact ⟨rfl, List.forall_mem_cons.2 ⟨continued, stanzas⟩⟩
  | noHeader number line rest tokens kind => exact absurd kind (h line List.mem_cons_self _)
  | noDestination source number line rest kind => exact absurd kind (h line List.mem_cons_self _)
  | noPorts source number line rest name kind => exact absurd kind (h line List.mem_cons_self _)
  | destination source number line rest name port ports kind =>
    exact absurd kind (h line List.mem_cons_self _)

end Passage

namespace Document

variable {document : Document}

theorem rules_eq_nil (h : ∀ stanza ∈ document.stanzas, stanza.destinations = []) :
    document.rules = [] := by
  refine List.flatMap_eq_nil_iff.2 fun stanza mem ↦ ?_
  rw [Stanza.rules, h stanza mem, List.flatMap_nil]

/-- A readable document is flattened to its own rules. -/
theorem IsReadable.flatten_render (h : document.IsReadable) :
    flatten document.render = .ok document.rules := by
  obtain ⟨back, issueFree⟩ := h.ofText_render
  refine flatten_eq_ok_iff.2 ⟨?_, by rw [back]⟩
  rw [Report.hasErrors, issueFree]
  rfl

/-- A sound document all of whose lines read as comments or headers is flattened to no rule. -/
theorem IsSound.rules_ofText_render (h : document.IsSound)
    (unread : ∀ stanza ∈ document.stanzas, ∀ line ∈ stanza.destinations,
      line.ReadsAsComment ∨ line.ReadsAsHeader) :
    (Report.ofText document.render).document.rules = [] := by
  apply rules_eq_nil
  rw [Report.ofText, physicalLines_render h, Report.stanzas_ofLines]
  refine (Passage.destinations_ofLines (fun text isText tokens ↦ ?_) none 1).2
  obtain ⟨stanza, isStanza, _ | ⟨_, isText⟩⟩ := List.mem_flatMap.1 isText
  · rw [Stanza.ofLine_header (h stanza isStanza).source]
    exact LineKind.noConfusion
  · obtain ⟨line, isLine, rfl⟩ := List.mem_map.1 isText
    have sound := (h stanza isStanza).destinations line isLine
    rw [sound.ofLine_text]
    rcases unread stanza isStanza line isLine with comment | header
    · rw [if_pos comment]
      exact LineKind.noConfusion
    · rw [if_pos (sound.isHeader_text.2 header)]
      split_ifs <;> exact LineKind.noConfusion

end Document

namespace ValueLists

theorem isSound_expand {lists : ValueLists} (sources : ∀ source ∈ lists.sources, IsLabel source)
    (destinations : ∀ destination ∈ lists.destinations, IsAtom destination)
    (ports : ∀ port ∈ lists.ports, IsAtom port) : lists.expand.IsSound := by
  intro stanza isStanza
  obtain ⟨source, isSource, rfl⟩ := List.mem_map.1 isStanza
  refine ⟨sources source isSource, fun line isLine ↦ ?_⟩
  obtain ⟨nonempty, isDestination, same⟩ := mem_destinationLines.1 isLine
  exact ⟨destinations _ isDestination, same ▸ nonempty, same ▸ ports⟩

end ValueLists

section OneDestination

variable {sources : List String} {destination : String} {ports : List String}

/-- The rules of one destination. -/
def rulesFor (sources : List String) (destination : String) (ports : List String) : List Rule :=
  sources.flatMap fun source ↦ ports.map fun port ↦ ⟨source, destination, port⟩

theorem rules_expand_singleton :
    (ValueLists.expand ⟨sources, [destination], ports⟩).rules =
      rulesFor sources destination ports := by
  simp [ValueLists.rules_expand, rulesFor]

theorem mem_rulesFor {source port : String} (isSource : source ∈ sources) (isPort : port ∈ ports) :
    ⟨source, destination, port⟩ ∈ rulesFor sources destination ports :=
  List.mem_flatMap.2 ⟨source, isSource, List.mem_map.2 ⟨port, isPort, rfl⟩⟩

theorem isReadable_of_not_isAmbiguous (labels : ∀ source ∈ sources, IsLabel source)
    (commaFree : ',' ∉ destination.toList) (atoms : ∀ port ∈ ports, IsAtom port)
    (clear : isAmbiguous destination = false)
    (notHeader : ¬(DestinationLine.mk destination ports).ReadsAsHeader) :
    (ValueLists.expand ⟨sources, [destination], ports⟩).IsReadable := by
  have readable : ValueLists.IsReadable ⟨sources, [destination], ports⟩ :=
    { sources := labels
      destinations := by simpa using isAmbiguous_eq_false_iff.1 clear
      ports := fun port isPort ↦ ⟨(atoms port isPort).nonempty, (atoms port isPort).blankFree⟩
      brackets := by simpa [DestinationLine.ReadsAsHeader] using notHeader }
  exact readable.expand ⟨by simpa using commaFree, fun port isPort ↦ (atoms port isPort).commaFree⟩

/-- Rules that come back prove their destination an atom whose line is a declaration. -/
theorem not_isAmbiguous_of_flatten (nonempty : sources ≠ [])
    (labels : ∀ source ∈ sources, IsLabel source) (portsNonempty : ports ≠ [])
    (atoms : ∀ port ∈ ports, IsAtom port)
    (back : flatten (ValueLists.expand ⟨sources, [destination], ports⟩).render =
      .ok (rulesFor sources destination ports)) :
    isAmbiguous destination = false ∧ ¬(DestinationLine.mk destination ports).ReadsAsHeader := by
  obtain ⟨source, isSource⟩ := List.exists_mem_of_ne_nil _ nonempty
  obtain ⟨port, isPort⟩ := List.exists_mem_of_ne_nil _ portsNonempty
  obtain ⟨-, rules⟩ := flatten_eq_ok_iff.1 back
  have mem : (⟨source, destination, port⟩ : Rule) ∈ rulesFor sources destination ports :=
    mem_rulesFor isSource isPort
  have atom : IsAtom destination := (isSound_of_flatten back _ mem).destination
  rw [← rules] at mem
  have sound : (ValueLists.expand ⟨sources, [destination], ports⟩).IsSound :=
    ValueLists.isSound_expand labels (by simpa using atom) atoms
  -- If its line were read as anything else, there would be no rule at all.
  have isRead : ¬((DestinationLine.mk destination ports).ReadsAsComment ∨
      (DestinationLine.mk destination ports).ReadsAsHeader) := by
    intro unread
    rw [sound.rules_ofText_render] at mem
    · cases mem
    · intro stanza isStanza line isLine
      obtain ⟨other, -, rfl⟩ := List.mem_map.1 isStanza
      obtain ⟨-, isDestination, same⟩ := ValueLists.mem_destinationLines.1 isLine
      obtain rfl : line = ⟨destination, ports⟩ := by
        cases line
        simp_all
      exact unread
  rw [not_or] at isRead
  exact ⟨isAmbiguous_eq_false_iff.2 ⟨atom.nonempty, atom.blankFree, isRead.1⟩, isRead.2⟩

/-- The rules of a destination come back exactly if it is not ambiguous and does not open a bracket
that the last port closes. -/
theorem flatten_render_expand_eq_iff (nonempty : sources ≠ [])
    (labels : ∀ source ∈ sources, IsLabel source) (commaFree : ',' ∉ destination.toList)
    (portsNonempty : ports ≠ []) (atoms : ∀ port ∈ ports, IsAtom port) :
    flatten (ValueLists.expand ⟨sources, [destination], ports⟩).render =
        .ok (rulesFor sources destination ports) ↔
      isAmbiguous destination = false ∧ ¬(destination.toList.head? = some '[' ∧
        ∃ port ∈ ports.getLast?, port.toList.getLast? = some ']') := by
  refine ⟨not_isAmbiguous_of_flatten nonempty labels portsNonempty atoms, fun h ↦ ?_⟩
  have readable := isReadable_of_not_isAmbiguous labels commaFree atoms h.1 h.2
  rw [readable.flatten_render, rules_expand_singleton]

/-- Brackets around the destination alone are harmless. -/
theorem flatten_bracketed_destination :
    flatten (ValueLists.expand ⟨["a", ""], ["[x]"], ["80", "443"]⟩).render =
      .ok (rulesFor ["a", ""] "[x]" ["80", "443"]) :=
  (flatten_render_expand_eq_iff (by decide) (by decide) (by decide) (by decide) (by decide)).2
    (by decide)

/-- A destination that only its ports turn into a header is not noticed: the line is read as one
more header, and no rule comes back. -/
theorem not_isAmbiguous_of_header :
    ¬∀ (sources : List String) (destination : String) (ports : List String), sources ≠ [] →
      (∀ source ∈ sources, IsLabel source) → ',' ∉ destination.toList → ports ≠ [] →
        (∀ port ∈ ports, IsAtom port) →
          (isAmbiguous destination = false ↔
            flatten (ValueLists.expand ⟨sources, [destination], ports⟩).render =
              .ok (rulesFor sources destination ports)) := by
  intro exact
  have back := (exact ["a"] "[x" ["80]"] (by decide) (by decide) (by decide) (by decide)
    (by decide)).1 rfl
  have lost : flatten (ValueLists.expand ⟨["a"], ["[x"], ["80]"]⟩).render = .ok [] := rfl
  rw [lost] at back
  cases back

end OneDestination

end Rulebook
