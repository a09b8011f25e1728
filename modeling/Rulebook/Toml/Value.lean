/-! # TOML values and tables -/

namespace Rulebook.Toml

/-- How a table came to be, which decides what may still be added to it. -/
inductive TableKind where
  /-- Opened by a header of its own. -/
  | opened
  /-- Only passed through by a longer header. -/
  | implied
  /-- Made by a dotted key. -/
  | dotted
  /-- Written between braces, and complete. -/
  | inline
deriving DecidableEq, Repr

inductive Value where
  | string (text : String)
  | boolean (value : Bool)
  /-- An integer or a float, as written. -/
  | number (text : String)
  /-- A date, a time or both, as written. -/
  | moment (text : String)
  /-- A list of values. One that is made of headers in double brackets can still grow. -/
  | array (grows : Bool) (items : List Value)
  | table (kind : TableKind) (entries : List (String × Value))

/-- Keys with their values, in order, no key twice. -/
abbrev Table := List (String × Value)

namespace Table

/-- Puts a value in place of the one of its key. -/
def replace (table : Table) (key : String) (value : Value) : Table :=
  table.map fun entry => if entry.1 = key then (key, value) else entry

def add (table : Table) (key : String) (value : Value) : Table :=
  table ++ [(key, value)]

/-- Applies a change to the last item, which has to be a table. -/
def changeLast (items : List Value) (change : Table → Option Table) : Option (List Value) :=
  match items.getLast? with
  | some (.table kind entries) =>
    (change entries).map fun changed => items.dropLast ++ [.table kind changed]
  | _ => none

/-- Sets the value of a dotted key. It may extend tables made by dotted keys, and no others, and it
may not set a key twice. -/
def set (table : Table) : (path : List String) → (key : String) → Value → Option Table
  | [], key, value =>
    match table.lookup key with
    | none => some (table.add key value)
    | some _ => none
  | first :: path, key, value =>
    match table.lookup first with
    | none => (set [] path key value).map fun inner => table.add first (.table .dotted inner)
    | some (.table .dotted entries) =>
      (set entries path key value).map fun inner => table.replace first (.table .dotted inner)
    | some _ => none

/-- Goes to the table that a header's keys lead to, making those that are missing, and changes it.
An array of tables stands for its last table. -/
def visit (table : Table) : (path : List String) → (Table → Option Table) → Option Table
  | [], change => change table
  | first :: path, change =>
    match table.lookup first with
    | none => (visit [] path change).map fun inner => table.add first (.table .implied inner)
    | some (.table .inline _) => none
    | some (.table kind entries) =>
      (visit entries path change).map fun inner => table.replace first (.table kind inner)
    | some (.array true items) =>
      (changeLast items fun entries => visit entries path change).map fun inner =>
        table.replace first (.array true inner)
    | some _ => none

/-- Opens the table of a header. Each table can be opened once. -/
def openTable (key : String) (table : Table) : Option Table :=
  match table.lookup key with
  | none => some (table.add key (.table .opened []))
  | some (.table .implied entries) => some (table.replace key (.table .opened entries))
  | some _ => none

/-- Adds a table to the array of tables of a header in double brackets. -/
def openItem (key : String) (table : Table) : Option Table :=
  match table.lookup key with
  | none => some (table.add key (.array true [.table .opened []]))
  | some (.array true items) => some (table.replace key (.array true (items ++ [.table .opened []])))
  | some _ => none

end Table

end Rulebook.Toml
