import Rulebook.Proofs.Document.Expansion
import Rulebook.Proofs.Run.Flatten

/-!
# Expanding and flattening in a row

If a flatten run reads what an expand run wrote, and the values can be told apart in the document,
the two runs together write all combinations of the values.
-/

namespace Rulebook

namespace ValueList

variable {σ : Type} [Store σ] {store : σ} {argument : String} {values : List String}

/-- Neither an inline list nor a list file has a value with a comma. -/
theorem commaFree_resolve (h : resolve store argument = .ok values) :
    ∀ value ∈ values, ',' ∉ value.toList := by
  rw [resolve] at h
  split_ifs at h with isFile
  · cases content : (Store.read store argument).mapError (Failure.access argument) with
    | error failure =>
      rw [content] at h
      cases h
    | ok text =>
      rw [content] at h
      exact commaFree_ofLines h
  · obtain rfl : splitInline argument = values := Except.ok.inj h
    exact commaFree_splitInline argument

end ValueList

namespace ExpandSettings

variable {settings : ExpandSettings} {store : MemoryStore} {lists : ValueLists}

theorem yields_of_resolve_memory (h : settings.resolve store = .ok lists) :
    settings.staged.run.Yields store (.ok settings.output)
      (store.insert settings.output (Text.Utf8.encode lists.expand.render)) :=
  yields_of_resolve h rfl

/-- The values of a run are comma free, whether they are inline or listed in files. -/
theorem commaFree_of_resolve (h : settings.resolve store = .ok lists) : lists.CommaFree := by
  obtain ⟨-, destinations, ports⟩ := resolve_eq_ok_iff.1 h
  exact ⟨ValueList.commaFree_resolve destinations, ValueList.commaFree_resolve ports⟩

end ExpandSettings

namespace FlattenSettings

variable {settings : FlattenSettings} {store : MemoryStore} {document : Document}

/-- A readable document is delivered rule by rule. -/
theorem yields_of_isReadable (h : document.IsReadable)
    (input : store.file? settings.input = some (Text.Utf8.encode document.render)) :
    settings.staged.run.Yields store (.ok settings.output)
      (store.insert settings.output (Text.Utf8.encode (ruleList document.rules))) := by
  obtain ⟨back, issueFree⟩ := h.ofText_render
  have sound : ¬Outline.HasFatalLine (Outline.lines document.render) := by
    rw [← Report.hasErrors_ofText_iff, Report.hasErrors, issueFree]
    decide
  have run := yields_of_sound input sound
  rwa [back] at run

end FlattenSettings

namespace ValueLists

variable (lists : ValueLists)

/-- The lines of all combinations, by source, then by destination, then by port. -/
def combinations : List String :=
  lists.sources.flatMap fun source ↦ lists.destinations.flatMap fun destination ↦
    lists.ports.map fun port ↦ source ++ "," ++ destination ++ "," ++ port ++ "\n"

theorem ruleList_rules_expand : ruleList lists.expand.rules = String.join lists.combinations := by
  simp [ruleList, rules_expand, combinations, List.map_flatMap, Function.comp_def, Rule.text]

/-- One empty list is enough to leave no combination. -/
theorem combinations_eq_nil_iff :
    lists.combinations = [] ↔ lists.sources = [] ∨ lists.destinations = [] ∨ lists.ports = [] := by
  simp only [combinations, List.flatMap_eq_nil_iff, List.map_eq_nil_iff]
  constructor
  · intro h
    by_contra! nonempty
    obtain ⟨source, isSource⟩ := List.exists_mem_of_ne_nil _ nonempty.1
    obtain ⟨destination, isDestination⟩ := List.exists_mem_of_ne_nil _ nonempty.2.1
    exact nonempty.2.2 (h source isSource destination isDestination)
  · rintro (empty | empty | empty) <;> simp [empty]

end ValueLists

/-- Expanding readable values and flattening the document writes all their combinations, whatever
else the store holds. -/
theorem flatten_expand (store : MemoryStore) (expand : ExpandSettings) (flatten : FlattenSettings)
    (chained : flatten.input = expand.output) (lists : ValueLists)
    (sources : ((ValueList.gather expand.source).run store).result = .ok lists.sources)
    (destinations :
      ((ValueList.gather expand.destination).run store).result = .ok lists.destinations)
    (ports : ((ValueList.gather expand.ports).run store).result = .ok lists.ports)
    (readable : lists.IsReadable) :
    let expanded := expand.staged.run.run store
    let flattened := flatten.staged.run.run expanded.store
    expanded.result = .ok expand.output ∧ flattened.result = .ok flatten.output ∧
      flattened.store.file? flatten.output =
        some (Text.Utf8.encode (String.join lists.combinations)) ∧
      ((lists.sources = [] ∨ lists.destinations = [] ∨ lists.ports = []) →
        flattened.store.file? flatten.output = some (Text.Utf8.encode "")) := by
  have resolved : expand.resolve store = .ok lists := by
    rw [ExpandSettings.resolve_eq_ok_iff, ← (ValueList.yields_gather _ store).result,
      ← (ValueList.yields_gather _ store).result, ← (ValueList.yields_gather _ store).result]
    exact ⟨sources, destinations, ports⟩
  -- The resolver has kept commas out of the values, which makes the document readable.
  have document := readable.expand (ExpandSettings.commaFree_of_resolve resolved)
  obtain ⟨expanded, after⟩ := ExpandSettings.yields_of_resolve_memory resolved
  have input : (expand.staged.run.run store).store.file? flatten.input =
      some (Text.Utf8.encode lists.expand.render) := by
    rw [after, MemoryStore.file?_insert, if_pos chained]
  obtain ⟨flattened, final⟩ := FlattenSettings.yields_of_isReadable document input
  have output : (flatten.staged.run.run (expand.staged.run.run store).store).store.file?
      flatten.output = some (Text.Utf8.encode (String.join lists.combinations)) := by
    rw [final, MemoryStore.file?_insert, if_pos rfl, lists.ruleList_rules_expand]
  refine ⟨expanded, flattened, output, fun empty ↦ ?_⟩
  rw [output, lists.combinations_eq_nil_iff.2 empty]
  rfl

/-- One list stands inline, one in a file with a comment and both kinds of line ends. -/
theorem flatten_expand_listFile :
    let store := (∅ : MemoryStore).withFile "dest.config" "d1\r\n# spare\nd2"
    let expanded := (ExpandSettings.mk "a," "dest.config" "80,443" "document").staged.run.run store
    let flattened := (FlattenSettings.mk "document" "rules").staged.run.run expanded.store
    flattened.store.file? "rules" = some (Text.Utf8.encode
      "a,d1,80\na,d1,443\na,d2,80\na,d2,443\n,d1,80\n,d1,443\n,d2,80\n,d2,443\n") :=
  (flatten_expand _ ⟨"a,", "dest.config", "80,443", "document"⟩ ⟨"document", "rules"⟩ rfl
    ⟨["a", ""], ["d1", "d2"], ["80", "443"]⟩ rfl rfl rfl (by decide)).2.2.1

end Rulebook
