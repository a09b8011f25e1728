import Rulebook.Proofs.Run.Alike
import Rulebook.Proofs.Store.PlainName
import Rulebook.Store.Memory

/-!
# A directory that mirrors a memory

As long as only plain names are used, the base directory of a disk does all that a store in memory
does: `agree_mirrors` says that `Mirrors` survives every write and makes every answer alike. The
base is there from the start, so a write creates no directory.
-/

namespace Rulebook

namespace Tree

variable {tree : Tree} {place last : Location} {steps : List Step} {name : String}

/-! ## Walking to a directory that is there -/

theorem isDirectory_of_step {step : Step} (h : tree.step place step = .ok last) :
    tree.isDirectory place = true := by
  unfold Tree.step at h
  split at h
  · assumption
  · cases h

theorem step_name (directory : tree.isDirectory place = true)
    (short : name.utf8ByteSize ≤ maxNameWidth) :
    tree.step place (.name name) =
      if (tree.entry? (place ++ [name])).isNone then .error .notFound
      else .ok (place ++ [name]) := by
  unfold Tree.step
  simp only [if_pos directory, if_neg (Nat.not_lt.2 short)]

/-- A step that stays where it is can be left out. -/
theorem walk_filter_here (walked : tree.walk place steps = .ok last) :
    tree.walk place (steps.filter (· != .here)) = .ok last := by
  induction steps generalizing place with
  | nil => exact walked
  | cons first rest ih =>
    rw [walk] at walked
    split at walked
    case h_1 next taken =>
      by_cases here : first = .here
      · subst here
        have directory := isDirectory_of_step taken
        unfold Tree.step at taken
        rw [if_pos directory] at taken
        obtain rfl := Except.ok.inj taken
        exact ih walked
      · rw [List.filter_cons_of_pos (by simpa using here), walk, taken]
        exact ih walked
    case h_2 => cases walked

theorem approach_concat {before : List Step} (step : Step)
    (walked : tree.walk [] before = .ok place) (directory : tree.isDirectory place = true) :
    tree.approach (before ++ [step]) = .ok (place, some step) := by
  rw [approach, List.dropLast_concat, walked, List.getLast?_concat]
  exact if_pos directory

/-- What is there cannot be created. -/
theorem makeDirectory_of_walk (walked : tree.walk [] steps = .ok place) :
    tree.makeDirectory steps = .error .alreadyExists := by
  rcases List.eq_nil_or_concat steps with rfl | ⟨before, step, rfl⟩
  · rfl
  rw [List.concat_eq_append] at walked ⊢
  obtain ⟨above, reached, taken⟩ := exists_of_walk_append walked
  rw [walk_singleton] at taken
  have directory := isDirectory_of_step taken
  rw [makeDirectory, approach_concat step reached directory]
  cases step with
  | here | up => rfl
  | name text =>
    unfold Tree.step at taken
    simp only [if_pos directory] at taken
    split_ifs at taken with long absent
    simp only [if_neg long]
    exact if_pos (by simpa [Option.isSome_iff_ne_none] using absent)

theorem ensureDirectory_of_walk (walked : tree.walk [] steps = .ok place)
    (directory : tree.isDirectory place = true) :
    tree.ensureDirectory steps.reverse = (.ok (), tree) := by
  have taken := makeDirectory_of_walk walked
  have settled : tree.settleDirectory steps = (.ok (), tree) := by
    have reaches : tree.reachesDirectory steps = true := by
      rw [reachesDirectory, walked]
      exact directory
    rw [settleDirectory, taken]
    exact if_pos reaches
  rcases List.eq_nil_or_concat steps with rfl | ⟨before, step, rfl⟩
  · rfl
  rw [List.concat_eq_append] at taken settled ⊢
  rw [List.reverse_concat, ensureDirectory, List.reverse_reverse, taken]
  exact settled

end Tree

/-! ## Plain names on a disk -/

/-- The base of a disk is a directory, and its path leaves room for any plain name. -/
structure Disk.Hosts (disk : Disk) (home : Location) : Prop where
  reached : disk.tree.walk [] (Path.ofText disk.base).steps = .ok home
  directory : disk.tree.isDirectory home = true
  nulFree : '\x00' ∉ disk.base.toList
  room : disk.base.utf8ByteSize + 1 + Tree.maxNameWidth < Tree.maxPathWidth

namespace Disk.Hosts

variable {disk : Disk} {home : Location} {name : String} {data : ByteArray}

theorem locate (hosts : disk.Hosts home) (plain : IsPlainName name) :
    disk.tree.locate (Path.join disk.base name) =
      if (disk.tree.entry? (home ++ [name])).isNone then .error .notFound
      else .ok (home ++ [name]) := by
  rw [Tree.locate, plain.pathFault?_join hosts.nulFree hosts.room, plain.ofText_join]
  simp only
  rw [Tree.walk_append hosts.reached, Tree.walk_singleton,
    Tree.step_name hosts.directory plain.short]

theorem read_of_absent (hosts : disk.Hosts home) (plain : IsPlainName name)
    (absent : disk.tree.entry? (home ++ [name]) = none) :
    Store.read disk name = .error .notFound := by
  rw [Disk.read_eq, Tree.read, hosts.locate plain, absent]
  rfl

theorem read_of_file (hosts : disk.Hosts home) (plain : IsPlainName name)
    (file : disk.tree.entry? (home ++ [name]) = some (.file data)) :
    Store.read disk name = (Text.Utf8.decode data).mapError fun _ ↦ .notUtf8 := by
  have located : disk.tree.locate (Path.join disk.base name) = .ok (home ++ [name]) := by
    rw [hosts.locate plain, file]
    rfl
  rw [Disk.read_eq, Tree.read, located]
  simp only
  rw [Tree.file?_eq_some_iff.2 file, plain.ofText_join]
  rfl

theorem prepare (hosts : disk.Hosts home) (plain : IsPlainName name) :
    disk.tree.prepare (Path.join disk.base name) = (.ok (), disk.tree) := by
  have sound := plain.pathFault?_join hosts.nulFree hosts.room
  have walked : disk.tree.walk [] (Path.ofText disk.base).moves = .ok home :=
    Tree.walk_filter_here hosts.reached
  rw [Tree.prepare_of_pathFault? sound, plain.parent_join]
  exact Tree.ensureDirectory_of_walk walked hosts.directory

theorem target (hosts : disk.Hosts home) (plain : IsPlainName name)
    (free : disk.tree.isDirectory (home ++ [name]) = false) :
    disk.tree.target (Path.join disk.base name) = .ok (home ++ [name]) := by
  rw [Tree.target, plain.pathFault?_join hosts.nulFree hosts.room, plain.ofText_join]
  simp only
  rw [Tree.approach_concat _ hosts.reached hosts.directory]
  simp only [if_neg (Nat.not_lt.2 plain.short), free]
  rfl

theorem write (hosts : disk.Hosts home) (plain : IsPlainName name)
    (free : disk.tree.isDirectory (home ++ [name]) = false) :
    Store.write disk name data =
      (.ok (), { disk with tree := disk.tree.put (home ++ [name]) (.file data) }) := by
  refine Disk.write_eq_iff.2 ⟨?_, rfl⟩
  rw [Tree.write, hosts.prepare plain]
  simp only
  rw [hosts.target plain free]

/-- A file in the base directory does not bar the way there. -/
theorem put_file (hosts : disk.Hosts home)
    (free : disk.tree.isDirectory (home ++ [name]) = false) :
    Hosts { disk with tree := disk.tree.put (home ++ [name]) (.file data) } home :=
  have preserves := Tree.preserves_put_file (List.concat_ne_nil name home) free data
  { reached := Tree.walk_mono preserves hosts.reached
    directory := preserves.directory home hosts.directory
    nulFree := hosts.nulFree
    room := hosts.room }

end Disk.Hosts

/-! ## The mirror -/

/-- What a memory holds, seen as the entries below a directory. -/
def MemoryStore.entry? (memory : MemoryStore) : Location → Option Entry
  | [name] => (memory.file? name).map .file
  | _ => none

theorem MemoryStore.entry?_insert (memory : MemoryStore) (name : String) (data : ByteArray)
    (below : Location) :
    MemoryStore.entry? (memory.insert name data) below =
      if below = [name] then some (.file data) else memory.entry? below := by
  match below with
  | [] => rfl
  | [other] =>
    simp only [file?_insert, List.cons.injEq, and_true, entry?]
    split <;> rfl
  | first :: second :: rest =>
    rw [if_neg (by simp)]
    rfl

/-- Below its base directory, the disk holds the files of the memory and nothing else. -/
structure Mirrors (home : Location) (memory : MemoryStore) (disk : Disk) : Prop where
  hosts : disk.Hosts home
  entry : ∀ below ≠ [], disk.tree.entry? (home ++ below) = memory.entry? below

namespace Mirrors

variable {home : Location} {memory : MemoryStore} {disk : Disk} {name : String}

theorem entry_name (h : Mirrors home memory disk) (name : String) :
    disk.tree.entry? (home ++ [name]) = (memory.file? name).map .file :=
  h.entry [name] (List.cons_ne_nil name [])

theorem free (h : Mirrors home memory disk) (name : String) :
    disk.tree.isDirectory (home ++ [name]) = false := by
  rw [← Bool.not_eq_true, Tree.isDirectory_iff, h.entry_name]
  cases memory.file? name <;> simp

theorem read (h : Mirrors home memory disk) (plain : IsPlainName name) :
    SameUpTo AccessFault.Alike (Store.read memory name) (Store.read disk name) := by
  have entry := h.entry_name name
  change SameUpTo AccessFault.Alike (memory.read name) _
  rw [MemoryStore.read]
  cases found : memory.file? name with
  | none =>
    rw [found] at entry
    rw [h.hosts.read_of_absent plain entry]
    exact .error ⟨rfl, .inl rfl⟩
  | some data =>
    rw [found] at entry
    rw [h.hosts.read_of_file plain entry]
    change SameUpTo AccessFault.Alike ((Text.Utf8.decode data).mapError .broken) _
    cases Text.Utf8.decode data with
    | ok content => exact .ok content
    | error defect => exact .error ⟨rfl, .inr rfl⟩

theorem write (h : Mirrors home memory disk) (plain : IsPlainName name) (data : ByteArray) :
    (Store.write disk name data).1 = .ok () ∧
      Mirrors home (memory.insert name data) (Store.write disk name data).2 := by
  have free := h.free name
  rw [h.hosts.write plain free]
  refine ⟨rfl, h.hosts.put_file free, fun below nonempty ↦ ?_⟩
  rw [Tree.entry?_put _ (List.concat_ne_nil name home), h.entry below nonempty,
    MemoryStore.entry?_insert]
  simp only [List.append_cancel_left_eq]

/-- The two hold the same files. -/
theorem file?_eq_some_iff (h : Mirrors home memory disk) (below : Location) (data : ByteArray) :
    disk.tree.file? (home ++ below) = some data ↔
      ∃ name, below = [name] ∧ memory.file? name = some data := by
  rw [Tree.file?_eq_some_iff]
  match below with
  | [] =>
    rw [List.append_nil, Tree.isDirectory_iff.1 h.hosts.directory]
    simp
  | [name] =>
    rw [h.entry_name]
    simp
  | first :: second :: rest =>
    rw [h.entry _ (List.cons_ne_nil first _), MemoryStore.entry?]
    · simp
    · simp

end Mirrors

/-- The base is a directory with nothing below it. -/
structure Disk.IsFresh (disk : Disk) (home : Location) : Prop where
  hosts : disk.Hosts home
  empty : ∀ below ≠ [], disk.tree.entry? (home ++ below) = none

theorem Disk.IsFresh.mirrors {disk : Disk} {home : Location} (h : disk.IsFresh home) :
    Mirrors home ∅ disk where
  hosts := h.hosts
  entry below nonempty := by
    rw [h.empty below nonempty]
    match below with
    | [] => rfl
    | [_] => rfl
    | _ :: _ :: _ => rfl

/-- With plain names, a memory and the directory that mirrors it cannot be told apart. -/
theorem agree_mirrors (home : Location) : Store.Agree IsPlainName (Mirrors home) where
  read _ _ _ h plain := h.read plain
  answer memory disk name data h plain := by
    rw [(h.write plain data).1]
    exact .ok ()
  written _ _ _ data h plain := (h.write plain data).2

end Rulebook
