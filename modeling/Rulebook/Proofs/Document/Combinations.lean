import Mathlib.Data.List.Nodup
import Mathlib.Data.List.ProdSigma
import Rulebook.Proofs.Document.Expansion

/-!
# The combinations of value lists

An expanded document has one rule for each source, destination and port.  The rules come in the
order of their numbers: read to the base of the two inner lists, the number of a rule has the places
of its three values as its digits.
-/

namespace Rulebook

namespace ValueLists

variable (lists : ValueLists)

section Product

variable {α β : Type}

/-- The number of a pair has the place of its first part as quotient and that of its second part as
remainder. -/
theorem getElem?_product (firsts : List α) (seconds : List β) (number : Nat) :
    (firsts ×ˢ seconds)[number]? = firsts[number / seconds.length]?.bind fun first ↦
      seconds[number % seconds.length]?.map fun second ↦ (first, second) := by
  induction firsts generalizing number with
  | nil => simp
  | cons first firsts ih =>
    rw [List.product_cons, List.getElem?_append, List.length_map]
    split
    case isTrue less =>
      rw [Nat.div_eq_of_lt less, Nat.mod_eq_of_lt less, List.getElem?_map]
      rfl
    case isFalse notLess =>
      have le : seconds.length ≤ number := Nat.le_of_not_lt notLess
      rcases Nat.eq_zero_or_pos seconds.length with none | some
      · simp [List.length_eq_zero_iff.1 none]
      · rw [ih, Nat.div_eq_sub_div some le, Nat.mod_eq_sub_mod le, List.getElem?_cons_succ]

/-- A pair stands where its parts do. -/
theorem getElem?_product_eq_some_iff {firsts : List α} {seconds : List β} {number : Nat}
    {first : α} {second : β} :
    (firsts ×ˢ seconds)[number]? = some (first, second) ↔
      firsts[number / seconds.length]? = some first ∧
        seconds[number % seconds.length]? = some second := by
  simp [getElem?_product, Option.bind_eq_some_iff]

end Product

/-- The rule of a source, a destination and a port. -/
def combine (values : String × String × String) : Rule :=
  ⟨values.1, values.2.1, values.2.2⟩

theorem combine_injective : Function.Injective combine := by
  rintro ⟨source, destination, port⟩ ⟨source', destination', port'⟩ same
  obtain ⟨rfl, rfl, rfl⟩ := Rule.mk.inj same
  rfl

theorem rules_expand_eq_product :
    lists.expand.rules = (lists.sources ×ˢ lists.destinations ×ˢ lists.ports).map combine := by
  rw [rules_expand]
  simp only [SProd.sprod, List.product, List.map_flatMap, List.map_map]
  rfl

theorem length_rules_expand : lists.expand.rules.length =
    lists.sources.length * lists.destinations.length * lists.ports.length := by
  rw [rules_expand_eq_product, List.length_map, List.length_product, List.length_product,
    Nat.mul_assoc]

/-- The digits of the number of a rule are places in the three lists. -/
theorem exists_of_lt_length_rules {number : Nat} (h : number < lists.expand.rules.length) :
    ∃ source destination port,
      lists.sources[number / (lists.destinations.length * lists.ports.length)]? = some source ∧
        lists.destinations[number / lists.ports.length % lists.destinations.length]? =
          some destination ∧
        lists.ports[number % lists.ports.length]? = some port ∧
        lists.expand.rules[number]? = some ⟨source, destination, port⟩ := by
  have inside : number < (lists.sources ×ˢ lists.destinations ×ˢ lists.ports).length := by
    rwa [rules_expand_eq_product, List.length_map] at h
  obtain ⟨⟨source, destination, port⟩, found⟩ : ∃ values,
      (lists.sources ×ˢ lists.destinations ×ˢ lists.ports)[number]? = some values :=
    ⟨_, List.getElem?_eq_getElem inside⟩
  have rule : lists.expand.rules[number]? = some ⟨source, destination, port⟩ := by
    rw [rules_expand_eq_product, List.getElem?_map, found]
    rfl
  rw [getElem?_product_eq_some_iff, getElem?_product_eq_some_iff, List.length_product,
    Nat.mod_mul_left_div_self, Nat.mod_mul_left_mod] at found
  exact ⟨source, destination, port, found.1, found.2.1, found.2.2, rule⟩

theorem nodup_rules_expand (sources : lists.sources.Nodup)
    (destinations : lists.destinations.Nodup) (ports : lists.ports.Nodup) :
    lists.expand.rules.Nodup := by
  rw [rules_expand_eq_product]
  exact (sources.product (destinations.product ports)).map combine_injective

theorem ports_ne_nil_of_mem_expand {stanza : Stanza} (isStanza : stanza ∈ lists.expand.stanzas)
    {line : DestinationLine} (isLine : line ∈ stanza.destinations) : line.ports ≠ [] := by
  obtain ⟨source, -, rfl⟩ := List.mem_map.1 isStanza
  obtain ⟨nonempty, -, same⟩ := mem_destinationLines.1 isLine
  rwa [same]

/-- The rules of an expanded document are the combinations of its values, counted through with the
ports first and the sources last. They differ if the values of each list do. There is a stanza for
each source, and no line without a port. -/
theorem rules_expand_enumerate (lists : ValueLists) :
    lists.expand.ruleCount =
        lists.sources.length * lists.destinations.length * lists.ports.length ∧
      lists.expand.rules.length = lists.expand.ruleCount ∧
      (∀ number < lists.expand.ruleCount, ∃ source destination port,
        lists.sources[number / (lists.destinations.length * lists.ports.length)]? = some source ∧
          lists.destinations[number / lists.ports.length % lists.destinations.length]? =
            some destination ∧
          lists.ports[number % lists.ports.length]? = some port ∧
          lists.expand.rules[number]? = some ⟨source, destination, port⟩) ∧
      (lists.sources.Nodup → lists.destinations.Nodup → lists.ports.Nodup →
        lists.expand.rules.Nodup) ∧
      lists.expand.stanzas.length = lists.sources.length ∧
      ∀ stanza ∈ lists.expand.stanzas, ∀ line ∈ stanza.destinations, line.ports ≠ [] := by
  refine ⟨?_, Document.length_rules _, ?_, lists.nodup_rules_expand,
    lists.length_stanzas_expand, ?_⟩
  · rw [← Document.length_rules, length_rules_expand]
  · intro number less
    rw [← Document.length_rules] at less
    exact lists.exists_of_lt_length_rules less
  · intro stanza isStanza line isLine
    exact lists.ports_ne_nil_of_mem_expand isStanza isLine

/-- The eighth of twelve rules, from three lists without repetition, and one of the lines. -/
theorem rules_expand_enumerate_eighth :
    let lists : ValueLists := ⟨["a", "b"], ["d", "e", "f"], ["80", "443"]⟩
    7 < lists.expand.ruleCount ∧
      (∃ source destination port, ["a", "b"][7 / (3 * 2)]? = some source ∧
        ["d", "e", "f"][7 / 2 % 3]? = some destination ∧ ["80", "443"][7 % 2]? = some port ∧
        lists.expand.rules[7]? = some ⟨source, destination, port⟩) ∧
      lists.expand.rules[7]? = some ⟨"b", "d", "443"⟩ ∧ lists.expand.rules.Nodup ∧
      (⟨"e", ["80", "443"]⟩ : DestinationLine).ports ≠ [] := by
  intro lists
  obtain ⟨-, -, numbered, distinct, -, portful⟩ := rules_expand_enumerate lists
  have line : (⟨"e", ["80", "443"]⟩ : DestinationLine).ports ≠ [] :=
    portful ⟨"b", lists.destinationLines⟩ (by decide) _ (by decide)
  exact ⟨by decide, numbered 7 (by decide), rfl,
    distinct (by decide) (by decide) (by decide), line⟩

end ValueLists

end Rulebook
