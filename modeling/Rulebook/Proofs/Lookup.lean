import Mathlib.Tactic.Common

/-!
# Lists of entries

Directory entries, table keys and command line options are all kept as lists of pairs in which the
first entry of a key counts.
-/

namespace Rulebook

variable {α β : Type} [BEq α] [LawfulBEq α] {key other : α} {value : β}
  {entries : List (α × β)}

/-- An entry that takes the place of those of its key is found there, and all others stay. -/
theorem lookup_replace [DecidableEq α] (entries : List (α × β))
    (present : (entries.lookup key).isSome) :
    (entries.map fun entry ↦ if entry.1 = key then (key, value) else entry).lookup other =
      if other = key then some value else entries.lookup other := by
  induction entries with
  | nil => cases present
  | cons first rest ih =>
    obtain ⟨name, content⟩ := first
    rw [List.map_cons]
    by_cases same : name = key
    · subst same
      rw [if_pos rfl, List.lookup_cons, List.lookup_cons]
      by_cases here : other = name
      · simp [here]
      · rw [if_neg here, beq_eq_false_iff_ne.2 here]
        by_cases more : (rest.lookup name).isSome
        · rw [ih more, if_neg here]
        · -- The rest holds no entry of this key, so nothing is replaced there.
          have untouched :
              ∀ entry ∈ rest, (if entry.1 = name then (name, value) else entry) = entry := by
            intro entry mem
            refine if_neg fun isKey ↦ more (List.lookup_isSome_iff.2 ⟨entry, mem, ?_⟩)
            simp [isKey]
          rw [List.map_congr_left untouched, List.map_id']
    · rw [if_neg same, List.lookup_cons, List.lookup_cons]
      rw [List.lookup_cons, beq_eq_false_iff_ne.2 (Ne.symm same)] at present
      by_cases here : other = name
      · subst here
        simp [same]
      · rw [beq_eq_false_iff_ne.2 here]
        exact ih present

/-- Among entries of distinct keys, a key is looked up by membership. -/
theorem lookup_eq_some_iff_mem (once : (entries.map Prod.fst).Nodup) :
    entries.lookup key = some value ↔ (key, value) ∈ entries := by
  rw [List.lookup_eq_some_iff]
  constructor
  · rintro ⟨before, after, rfl, -⟩
    simp
  · intro mem
    obtain ⟨before, after, rfl⟩ := List.append_of_mem mem
    refine ⟨before, after, rfl, fun other isBefore ↦ bne_iff_ne.2 ?_⟩
    rintro rfl
    rw [List.map_append, List.nodup_append] at once
    exact once.2.2 _ (List.mem_map_of_mem isBefore) _ List.mem_cons_self rfl

end Rulebook
