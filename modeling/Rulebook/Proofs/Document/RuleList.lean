import Rulebook.Proofs.Document.Sound
import Rulebook.StagedRun

/-!
# The fields of a rule list

A rule list is written without quotes, so what a reader gets from its commas depends on the values
alone. Destinations and ports are tokens between commas and keep the two last fields of a line for
themselves. A source is the label of a header, where a comma is a character like any other, and it
takes all the fields before.
-/

namespace Rulebook

/-- The fields of a rule that was read: the label of its header and two tokens. -/
structure Rule.IsSound (rule : Rule) : Prop where
  source : IsLabel rule.source
  destination : IsAtom rule.destination
  port : IsAtom rule.port

namespace Document

variable {document : Document} {rule : Rule}

theorem IsSound.of_mem_rules (h : document.IsSound) (mem : rule ∈ document.rules) :
    rule.IsSound := by
  obtain ⟨stanza, isStanza, mem⟩ := List.mem_flatMap.1 mem
  obtain ⟨line, isLine, mem⟩ := List.mem_flatMap.1 mem
  obtain ⟨port, isPort, rfl⟩ := List.mem_map.1 mem
  have sound := h stanza isStanza
  have soundLine := sound.destinations line isLine
  exact ⟨sound.source, soundLine.destination, soundLine.ports port isPort⟩

end Document

theorem flatten_eq_ok_iff {content : String} {rules : List Rule} :
    flatten content = .ok rules ↔
      (Report.ofText content).hasErrors = false ∧
        (Report.ofText content).document.rules = rules := by
  rw [flatten, Report.result]
  cases (Report.ofText content).hasErrors <;> simp [Report.rules]

theorem isSound_of_flatten {content : String} {rules : List Rule}
    (accepted : flatten content = .ok rules) : ∀ rule ∈ rules, rule.IsSound := by
  intro rule mem
  obtain ⟨-, rfl⟩ := flatten_eq_ok_iff.1 accepted
  exact (Report.isSound_ofLines _).of_mem_rules mem

namespace Rule

variable {rule : Rule}

theorem toList_text (rule : Rule) :
    rule.text.toList =
      rule.source.toList ++ ',' :: (rule.destination.toList ++ ',' :: rule.port.toList) := by
  simp [text]

/-- The pieces of a line between its commas end with the destination and the port. -/
theorem splitOn_text (destination : ',' ∉ rule.destination.toList)
    (port : ',' ∉ rule.port.toList) :
    rule.text.toList.splitOn ',' =
      rule.source.toList.splitOn ',' ++ [rule.destination.toList, rule.port.toList] := by
  rw [toList_text, List.splitOn_append_cons_self, List.splitOn_append_cons_self,
    List.splitOn_eq_singleton destination, List.splitOn_eq_singleton port]
  rfl

/-- A line has three fields exactly if its source has no comma. -/
theorem splitOn_text_eq_fields_iff (destination : ',' ∉ rule.destination.toList)
    (port : ',' ∉ rule.port.toList) :
    rule.text.toList.splitOn ',' =
        [rule.source.toList, rule.destination.toList, rule.port.toList] ↔
      ',' ∉ rule.source.toList := by
  rw [splitOn_text destination port]
  constructor
  · intro fields comma
    change _ = [rule.source.toList] ++ [rule.destination.toList, rule.port.toList] at fields
    have single : rule.source.toList.splitOn ',' = [rule.source.toList] :=
      List.append_cancel_right fields
    have isPiece : rule.source.toList ∈ rule.source.toList.splitOn ',' := by
      rw [single]
      exact List.mem_singleton_self _
    exact Text.sep_notMem_of_mem_splitOn isPiece comma
  · intro commaFree
    rw [List.splitOn_eq_singleton commaFree]
    rfl

/-- The comma is no blank either, so a line holds none at all. -/
theorem IsSound.blankFree_text (h : rule.IsSound) :
    ∀ c ∈ rule.text.toList, Text.isBlank c = false := by
  intro c mem
  rw [toList_text, List.mem_append, List.mem_cons, List.mem_append, List.mem_cons] at mem
  rcases mem with inSource | rfl | inDestination | rfl | inPort
  · exact h.source.blankFree c inSource
  · exact Text.isBlank_comma
  · exact h.destination.blankFree c inDestination
  · exact Text.isBlank_comma
  · exact h.port.blankFree c inPort

theorem IsSound.newlineFree_text (h : rule.IsSound) : '\n' ∉ rule.text.toList := by
  intro newline
  have notBlank := h.blankFree_text _ newline
  rw [Text.isBlank_newline] at notBlank
  cases notBlank

end Rule

section RuleList

variable {rules : List Rule}

theorem toList_ruleList (rules : List Rule) :
    (ruleList rules).toList = rules.flatMap fun rule ↦ rule.text.toList ++ ['\n'] := by
  simp [ruleList, List.flatMap_map]

/-- Between its line feeds, a rule list has one line for each rule and nothing after the last. -/
theorem splitOn_ruleList (newlineFree : ∀ rule ∈ rules, '\n' ∉ rule.text.toList) :
    (ruleList rules).toList.splitOn '\n' = rules.map (fun rule ↦ rule.text.toList) ++ [[]] := by
  rw [toList_ruleList]
  induction rules with
  | nil => rfl
  | cons rule rules ih =>
    obtain ⟨here, later⟩ := List.forall_mem_cons.1 newlineFree
    rw [List.flatMap_cons, List.append_assoc, List.singleton_append,
      List.splitOn_append_cons_self, List.splitOn_eq_singleton here, ih later]
    rfl

/-- Every accepted document gives rules whose destination and port are tokens and whose source is a
label. Their list has one line for each of them, with the destination and the port as its last two
fields, and these and the source are its only fields exactly if the source has no comma. -/
theorem fields_of_flatten {content : String} (accepted : flatten content = .ok rules) :
    (∀ rule ∈ rules, rule.IsSound) ∧
      (ruleList rules).toList.splitOn '\n' = rules.map (fun rule ↦ rule.text.toList) ++ [[]] ∧
        ∀ rule ∈ rules,
          rule.text.toList.splitOn ',' =
              rule.source.toList.splitOn ',' ++ [rule.destination.toList, rule.port.toList] ∧
            (rule.text.toList.splitOn ',' =
                [rule.source.toList, rule.destination.toList, rule.port.toList] ↔
              ',' ∉ rule.source.toList) := by
  have sound := isSound_of_flatten accepted
  refine ⟨sound, splitOn_ruleList fun rule mem ↦ (sound rule mem).newlineFree_text, ?_⟩
  intro rule mem
  have destination := (sound rule mem).destination.commaFree
  have port := (sound rule mem).port.commaFree
  exact ⟨Rule.splitOn_text destination port, Rule.splitOn_text_eq_fields_iff destination port⟩

/-- Of two headers with blanks and brackets in plenty, one has a comma. -/
theorem fields_of_flatten_comma :
    let content := "[[ a , b ]]\n d1 , 80,, 443 \n# none\n[c]\nd2,22"
    let rules : List Rule := [⟨"a,b", "d1", "80"⟩, ⟨"a,b", "d1", "443"⟩, ⟨"c", "d2", "22"⟩]
    flatten content = .ok rules ∧ (∀ rule ∈ rules, rule.IsSound) ∧
      (ruleList rules).toList.splitOn '\n' = rules.map (fun rule ↦ rule.text.toList) ++ [[]] ∧
        ∀ rule ∈ rules,
          rule.text.toList.splitOn ',' =
              rule.source.toList.splitOn ',' ++ [rule.destination.toList, rule.port.toList] ∧
            (rule.text.toList.splitOn ',' =
                [rule.source.toList, rule.destination.toList, rule.port.toList] ↔
              ',' ∉ rule.source.toList) := by
  have accepted : flatten "[[ a , b ]]\n d1 , 80,, 443 \n# none\n[c]\nd2,22" =
      .ok [⟨"a,b", "d1", "80"⟩, ⟨"a,b", "d1", "443"⟩, ⟨"c", "d2", "22"⟩] :=
    rfl
  exact ⟨accepted, fields_of_flatten accepted⟩

/-- A source is not split at its commas: a document with one comma in a header is accepted, and its
rule has a field too many. -/
theorem not_fields_of_flatten :
    ¬∀ (content : String) (rules : List Rule), flatten content = .ok rules → ∀ rule ∈ rules,
      (∀ field ∈ [rule.source, rule.destination, rule.port],
        (∀ c ∈ field.toList, Text.isBlank c = false) ∧ ',' ∉ field.toList) ∧
      rule.text.toList.splitOn ',' =
        [rule.source.toList, rule.destination.toList, rule.port.toList] := by
  intro atomic
  have accepted : flatten "[a,b]\nd,80\n" = .ok [⟨"a,b", "d", "80"⟩] := rfl
  obtain ⟨fields, -⟩ := atomic _ _ accepted _ (List.mem_singleton_self _)
  have commaFree := (fields "a,b" List.mem_cons_self).2
  exact commaFree (by decide)

end RuleList

end Rulebook
