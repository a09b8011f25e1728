import Rulebook.Proofs.Lookup
import Rulebook.Toml.Reader

/-!
# What has been said stays said

Statements only ever add to a table: a key cannot be set twice, and a table or an array that is
opened again keeps what is in it. So a string, once it is set, is found under the same keys whatever
statements follow: `keeps_of_assemble?`.
-/

namespace Rulebook.Toml

/-- The value holds a string under some keys, each of a table in the one before. -/
inductive Value.Holds : Value → List String → String → Prop
  | string (text : String) : Holds (.string text) [] text
  | table {kind : TableKind} {entries : Table} {key : String} {value : Value} {path : List String}
    {text : String} (found : entries.lookup key = some value) (inner : Holds value path text) :
    Holds (.table kind entries) (key :: path) text

/-- Every string of the value is held by the later one, under the same keys. -/
def Value.Keeps (value later : Value) : Prop :=
  ∀ path text, value.Holds path text → later.Holds path text

namespace Table

/-- Every key of the table is one of the later table, with a value that keeps all strings. -/
def Keeps (table later : Table) : Prop :=
  ∀ key value, table.lookup key = some value →
    ∃ changed, later.lookup key = some changed ∧ value.Keeps changed

variable {table later : Table} {key : String} {old new : Value}
  {items : List Value} {grows : Bool} {path : List String}

theorem Keeps.tables (h : Keeps table later) (kind changed : TableKind) :
    Value.Keeps (.table kind table) (.table changed later) := by
  rintro path text ⟨⟩
  case table found inner =>
    obtain ⟨changed, there, kept⟩ := h _ _ found
    exact .table there (kept _ _ inner)

theorem Keeps.refl (table : Table) : Keeps table table :=
  fun _ value found ↦ ⟨value, found, fun _ _ ↦ id⟩

theorem Keeps.trans {middle : Table} (first : Keeps table middle) (second : Keeps middle later) :
    Keeps table later := by
  intro key value found
  obtain ⟨between, there, kept⟩ := first key value found
  obtain ⟨changed, last, keptLast⟩ := second key between there
  exact ⟨changed, last, fun path text holds ↦ keptLast path text (kept path text holds)⟩

/-- An array holds no strings of its own. -/
theorem keeps_array : Value.Keeps (.array grows items) new := by
  rintro path text ⟨⟩

/-! ## Changes to a table -/

theorem keeps_add (table : Table) (key : String) (value : Value) :
    Keeps table (table.add key value) := by
  intro other content found
  refine ⟨content, ?_, fun _ _ ↦ id⟩
  rw [add, List.lookup_append, found, Option.some_or]

theorem keeps_replace (found : table.lookup key = some old) (kept : old.Keeps new) :
    Keeps table (table.replace key new) := by
  have replaced (other : String) :
      (table.replace key new).lookup other =
        if other = key then some new else table.lookup other :=
    lookup_replace table (by rw [found, Option.isSome_some])
  intro other content there
  rw [replaced]
  by_cases same : other = key
  · subst same
    obtain rfl : old = content := Option.some.inj (found.symm.trans there)
    exact ⟨new, if_pos rfl, kept⟩
  · exact ⟨content, by rw [if_neg same, there], fun _ _ ↦ id⟩

theorem keeps_of_set (h : table.set path key value = some later) : Keeps table later := by
  fun_induction set table path key value generalizing later with
  | case1 table key value =>
    obtain rfl := Option.some.inj h
    exact keeps_add table key value
  | case2 | case5 => cases h
  | case3 table first path key value =>
    obtain ⟨inner, -, rfl⟩ := Option.map_eq_some_iff.1 h
    exact keeps_add table first _
  | case4 table first path key value entries found ih =>
    obtain ⟨inner, changed, rfl⟩ := Option.map_eq_some_iff.1 h
    exact keeps_replace found ((ih changed).tables _ _)

theorem keeps_of_visit {change : Table → Option Table}
    (keeps : ∀ table later, change table = some later → Keeps table later)
    (h : table.visit path change = some later) : Keeps table later := by
  fun_induction visit table path change generalizing later with
  | case1 table change => exact keeps table later h
  | case2 table first path change =>
    obtain ⟨inner, -, rfl⟩ := Option.map_eq_some_iff.1 h
    exact keeps_add table first _
  | case3 | case6 => cases h
  | case4 table first path change kind entries _ found ih =>
    obtain ⟨inner, changed, rfl⟩ := Option.map_eq_some_iff.1 h
    exact keeps_replace found ((ih keeps changed).tables _ _)
  | case5 table first path change items found =>
    obtain ⟨inner, -, rfl⟩ := Option.map_eq_some_iff.1 h
    exact keeps_replace found keeps_array

theorem keeps_of_openTable (h : openTable key table = some later) : Keeps table later := by
  rw [openTable] at h
  split at h
  case h_1 =>
    obtain rfl := Option.some.inj h
    exact keeps_add table key _
  case h_2 entries found =>
    obtain rfl := Option.some.inj h
    exact keeps_replace found ((Keeps.refl entries).tables _ _)
  case h_3 => cases h

theorem keeps_of_openItem (h : openItem key table = some later) : Keeps table later := by
  rw [openItem] at h
  split at h
  case h_1 =>
    obtain rfl := Option.some.inj h
    exact keeps_add table key _
  case h_2 items found =>
    obtain rfl := Option.some.inj h
    exact keeps_replace found keeps_array
  case h_3 => cases h

end Table

/-- Statements keep the strings that a table holds already. -/
theorem keeps_of_assemble? {root later : Table} {place : List String} {statements : List Statement}
    (h : assemble? root place statements = some later) : root.Keeps later := by
  induction statements generalizing root place with
  | nil =>
    obtain rfl := Option.some.inj h
    exact .refl root
  | cons statement rest ih =>
    cases statement with
    | header path key =>
      obtain ⟨opened, visited, more⟩ := Option.bind_eq_some_iff.1 h
      exact (Table.keeps_of_visit (fun _ _ ↦ Table.keeps_of_openTable) visited).trans (ih more)
    | itemHeader path key =>
      obtain ⟨opened, visited, more⟩ := Option.bind_eq_some_iff.1 h
      exact (Table.keeps_of_visit (fun _ _ ↦ Table.keeps_of_openItem) visited).trans (ih more)
    | pair path key value =>
      obtain ⟨changed, visited, more⟩ := Option.bind_eq_some_iff.1 h
      exact (Table.keeps_of_visit (fun _ _ ↦ Table.keeps_of_set) visited).trans (ih more)

end Rulebook.Toml
