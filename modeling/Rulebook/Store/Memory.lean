import Rulebook.Action

/-! # Files kept in memory -/

namespace Rulebook

/-- Files by name. A name is just a text: nothing is a directory. -/
@[ext]
structure MemoryStore where
  file? : String → Option ByteArray

namespace MemoryStore

def empty : MemoryStore :=
  ⟨fun _ => none⟩

instance : EmptyCollection MemoryStore := ⟨empty⟩

def insert (store : MemoryStore) (path : String) (data : ByteArray) : MemoryStore :=
  ⟨fun name => if name = path then some data else store.file? name⟩

/-- The store with a file put in beforehand. -/
def withFile (store : MemoryStore) (path content : String) : MemoryStore :=
  store.insert path (Text.Utf8.encode content)

def contains (store : MemoryStore) (path : String) : Bool :=
  (store.file? path).isSome

/-- The contents as a text, repaired where they are not UTF-8. -/
def contents? (store : MemoryStore) (path : String) : Option String :=
  (store.file? path).map Text.Utf8.repaired

def read (store : MemoryStore) (path : String) : Except AccessFault String :=
  match store.file? path with
  | none => .error .noSuchFile
  | some data => (Text.Utf8.decode data).mapError .broken

instance : Store MemoryStore where
  read := read
  write store path data := (.ok (), store.insert path data)

@[simp] theorem file?_insert (store : MemoryStore) (path : String) (data : ByteArray)
    (name : String) :
    (store.insert path data).file? name = if name = path then some data else store.file? name := rfl

theorem read_of_file?_eq_none {store : MemoryStore} {path : String}
    (h : store.file? path = none) : store.read path = .error .noSuchFile := by
  rw [read, h]

theorem read_of_not_isValidUTF8 {store : MemoryStore} {path : String} {data : ByteArray}
    (h : store.file? path = some data) (invalid : ¬data.IsValidUTF8) :
    store.read path = .error (.broken (Text.Utf8.defect data)) := by
  rw [read, h]
  exact congrArg (Except.mapError AccessFault.broken) (Text.Utf8.decode_of_not_isValidUTF8 invalid)

/-- Exactly the files that encode a text can be read, and they yield that text. -/
theorem read_eq_ok_iff {store : MemoryStore} {path content : String} :
    store.read path = .ok content ↔ store.file? path = some (Text.Utf8.encode content) := by
  rw [read]
  cases store.file? path with
  | none => simp
  | some data =>
    rw [Option.some.injEq, ← Text.Utf8.decode_eq_ok_iff]
    change (Text.Utf8.decode data).mapError AccessFault.broken = .ok content ↔ _
    cases Text.Utf8.decode data with
    | error defect => constructor <;> intro h <;> cases h
    | ok text =>
      rw [Except.ok.injEq]
      exact ⟨fun h => Except.ok.inj h, fun h => congrArg Except.ok h⟩

@[simp] theorem read_insert_encode (store : MemoryStore) (path text : String) :
    (store.insert path (Text.Utf8.encode text)).read path = .ok text :=
  read_eq_ok_iff.2 (if_pos rfl)

end MemoryStore

end Rulebook
