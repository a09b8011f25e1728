import Rulebook.Proofs.Document.RuleList

/-!
# Reading a rule list back

A rule list has no quotes, and a source may hold commas.  Still nothing is lost: no field of a rule
that was read holds a line feed, and its destination and its port hold no comma, so the last two
commas of a line are the ones between its fields.  `rules_of_ruleList` says that all the rules come
back in this way, whence different rules never have the same list.
-/

namespace Rulebook

namespace Text

/-- What stands before the last separator and what stands after it, if there is one. -/
def cutLast? (sep : Char) : List Char → Option (List Char × List Char)
  | [] => none
  | c :: rest =>
    match cutLast? sep rest with
    | some (before, after) => some (c :: before, after)
    | none => if c = sep then some ([], rest) else none

theorem cutLast?_eq_none_iff {sep : Char} {text : List Char} :
    cutLast? sep text = none ↔ sep ∉ text := by
  induction text with
  | nil => simp [cutLast?]
  | cons c rest ih =>
    rw [cutLast?, List.mem_cons, not_or, ← ih]
    cases cutLast? sep rest with
    | some => simp
    | none => simp [eq_comm]

/-- A separator is the last one if there is none behind it. -/
theorem cutLast?_append {sep : Char} {after : List Char} (free : sep ∉ after)
    (before : List Char) : cutLast? sep (before ++ sep :: after) = some (before, after) := by
  induction before with
  | nil =>
    rw [List.nil_append, cutLast?, cutLast?_eq_none_iff.2 free]
    exact if_pos rfl
  | cons c before ih => rw [List.cons_append, cutLast?, ih]

theorem Utf8.encode_injective : Function.Injective Utf8.encode := by
  intro text other same
  have decoded := congrArg Utf8.decode same
  rw [decode_encode, decode_encode] at decoded
  exact Except.ok.inj decoded

end Text

namespace Rule

/-- The rule of a line that is cut at its last two commas. -/
def ofLine? (line : List Char) : Option Rule := do
  let (front, port) ← Text.cutLast? ',' line
  let (source, destination) ← Text.cutLast? ',' front
  return ⟨String.ofList source, String.ofList destination, String.ofList port⟩

/-- The commas of a source are in front of the last two. -/
theorem ofLine?_text {rule : Rule} (destination : ',' ∉ rule.destination.toList)
    (port : ',' ∉ rule.port.toList) : ofLine? rule.text.toList = some rule := by
  have front : rule.text.toList =
      (rule.source.toList ++ ',' :: rule.destination.toList) ++ ',' :: rule.port.toList := by
    simp [text]
  rw [ofLine?, front, Text.cutLast?_append port]
  change (Text.cutLast? ',' (rule.source.toList ++ ',' :: rule.destination.toList) >>= _) = _
  rw [Text.cutLast?_append destination]
  simp

end Rule

section Decoding

variable {rules : List Rule}

/-- The lines of a list of sound rules, each cut at its last two commas. -/
theorem exists_lines_ruleList (sound : ∀ rule ∈ rules, rule.IsSound) :
    ∃ lines, (ruleList rules).toList.splitOn '\n' = lines ++ [[]] ∧
      lines.length = rules.length ∧ lines.map Rule.ofLine? = rules.map some := by
  refine ⟨rules.map fun rule ↦ rule.text.toList, ?_, List.length_map _, ?_⟩
  · exact splitOn_ruleList fun rule mem ↦ (sound rule mem).newlineFree_text
  · rw [List.map_map]
    refine List.map_congr_left fun rule mem ↦ ?_
    exact Rule.ofLine?_text (sound rule mem).destination.commaFree (sound rule mem).port.commaFree

/-- Sound rules come back from the bytes of their list. -/
theorem eq_of_encode_ruleList {others : List Rule} (sound : ∀ rule ∈ rules, rule.IsSound)
    (othersSound : ∀ rule ∈ others, rule.IsSound)
    (same : Text.Utf8.encode (ruleList rules) = Text.Utf8.encode (ruleList others)) :
    rules = others := by
  obtain ⟨lines, split, -, decoded⟩ := exists_lines_ruleList sound
  obtain ⟨otherLines, otherSplit, -, otherDecoded⟩ := exists_lines_ruleList othersSound
  rw [Text.Utf8.encode_injective same, otherSplit] at split
  rw [← List.append_cancel_right split, otherDecoded] at decoded
  exact (List.map_injective_iff.2 (fun _ _ ↦ Option.some.inj) decoded).symm

/-- The rules of an accepted document come back from their list: it has one line for each of them,
and a line is cut at its last two commas. So two accepted documents have the same list exactly if
they have the same rules. -/
theorem rules_of_ruleList {content : String} (accepted : flatten content = .ok rules) :
    (∃ lines, (ruleList rules).toList.splitOn '\n' = lines ++ [[]] ∧
      lines.length = rules.length ∧ lines.map Rule.ofLine? = rules.map some) ∧
      ∀ (other : String) (others : List Rule), flatten other = .ok others →
        (Text.Utf8.encode (ruleList rules) = Text.Utf8.encode (ruleList others) ↔
          rules = others) := by
  have sound := isSound_of_flatten accepted
  refine ⟨exists_lines_ruleList sound, fun other others otherAccepted ↦ ⟨?_, ?_⟩⟩
  · exact eq_of_encode_ruleList sound (isSound_of_flatten otherAccepted)
  · rintro rfl
    rfl

/-- A source with commas and an empty one, against a document that has only the first of them. -/
theorem rules_of_ruleList_commas :
    let content := "[a,,b,]\nd,80\n[]\ne,22"
    let other := "[[ a,,b, ]]\n\nd,,80,\n"
    let rules : List Rule := [⟨"a,,b,", "d", "80"⟩, ⟨"", "e", "22"⟩]
    let others : List Rule := [⟨"a,,b,", "d", "80"⟩]
    flatten content = .ok rules ∧ flatten other = .ok others ∧
      (∃ lines, (ruleList rules).toList.splitOn '\n' = lines ++ [[]] ∧
        lines.length = rules.length ∧ lines.map Rule.ofLine? = rules.map some) ∧
      (Text.Utf8.encode (ruleList rules) = Text.Utf8.encode (ruleList others) ↔
        rules = others) := by
  have accepted : flatten "[a,,b,]\nd,80\n[]\ne,22" =
      .ok [⟨"a,,b,", "d", "80"⟩, ⟨"", "e", "22"⟩] := rfl
  have otherAccepted : flatten "[[ a,,b, ]]\n\nd,,80,\n" = .ok [⟨"a,,b,", "d", "80"⟩] := rfl
  obtain ⟨lines, same⟩ := rules_of_ruleList accepted
  exact ⟨accepted, otherAccepted, lines, same _ _ otherAccepted⟩

end Decoding

end Rulebook
