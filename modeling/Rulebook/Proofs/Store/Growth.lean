import Rulebook.Proofs.Lookup
import Rulebook.Store.Tree

/-!
# What writing does to a tree

A write creates directories on the way to its file and then puts the file there.
`Tree.GrowsAlong` is what the directories may do to a tree and `Tree.Receives` what the file does in
addition. A write does no more than that, however far it gets. Both rest on `Tree.walk_mono`: a path
that could be walked can still be walked afterwards, and leads to the same place.
-/

namespace Rulebook.Tree

variable {tree middle later : Tree} {place last location : Location} {entry : Entry}
  {steps : List Step}

/-! ## Single entries -/

/-- An entry is put at its own location and nowhere else. -/
theorem entry?_put (tree : Tree) (h : place ≠ []) (entry : Entry) (location : Location) :
    Tree.entry? (tree.put place entry) location =
      if location = place then some entry else tree.entry? location := by
  by_cases root : location = []
  · subst root
    simp [Ne.symm h, entry?]
  · unfold entry?
    rw [if_neg root, if_neg root, put]
    split
    case isTrue present => exact lookup_replace tree.entries present
    case isFalse absent =>
      rw [List.lookup_append, List.lookup_cons, List.lookup_nil]
      by_cases here : location = place
      · subst here
        rw [Bool.not_eq_true, Option.isSome_eq_false_iff, Option.isNone_iff_eq_none] at absent
        simp [absent]
      · rw [if_neg here, beq_eq_false_iff_ne.2 here, Option.or_none]

theorem isDirectory_iff :
    tree.isDirectory location = true ↔ tree.entry? location = some .directory := by
  rw [isDirectory]
  split
  case h_1 isDirectory => simp [isDirectory]
  case h_2 other => simpa using other

theorem file?_eq_some_iff {data : ByteArray} :
    tree.file? location = some data ↔ tree.entry? location = some (.file data) := by
  rw [file?]
  split
  case h_1 found isFile => simp [isFile]
  case h_2 other => simpa using other data

/-! ## Walking in a tree that has grown -/

/-- What is there stays there, and directories stay directories. -/
structure Preserves (tree later : Tree) : Prop where
  directory : ∀ location, tree.isDirectory location = true → later.isDirectory location = true
  present : ∀ location, tree.entry? location ≠ none → later.entry? location ≠ none

theorem Preserves.of_kept (kept : ∀ location entry,
    tree.entry? location = some entry → later.entry? location = some entry) :
    tree.Preserves later where
  directory location := by
    simp only [isDirectory_iff]
    exact kept location .directory
  present location present := by
    obtain ⟨entry, there⟩ := Option.ne_none_iff_exists'.1 present
    exact Option.ne_none_iff_exists'.2 ⟨entry, kept location entry there⟩

/-- Where entries are kept and nothing but a directory is new, a file stays as it is. -/
theorem file?_eq_of_kept
    (kept : ∀ entry, tree.entry? location = some entry → later.entry? location = some entry)
    (created : tree.entry? location = none → later.entry? location ≠ none →
      later.entry? location = some .directory) :
    later.file? location = tree.file? location := by
  refine Option.ext fun data ↦ ?_
  rw [file?_eq_some_iff, file?_eq_some_iff]
  refine ⟨fun there ↦ ?_, kept _⟩
  cases before : tree.entry? location with
  | none =>
    have directory := created before (by rw [there]; exact Option.some_ne_none _)
    rw [there] at directory
    cases directory
  | some entry => rw [← there, kept entry before]

theorem step_mono (h : tree.Preserves later) {step : Step}
    (taken : tree.step place step = .ok last) : later.step place step = .ok last := by
  unfold Tree.step at taken ⊢
  split_ifs at taken with directory
  rw [if_pos (h.directory place directory)]
  cases step with
  | here | up => exact taken
  | name text =>
    simp only at taken ⊢
    split_ifs at taken with long absent
    have there := h.present (place ++ [text]) (by simpa using absent)
    rw [if_neg long, if_neg (by simpa using there)]
    exact taken

/-- A path that can be walked leads to the same place in a tree that preserves all. -/
theorem walk_mono (h : tree.Preserves later) (walked : tree.walk place steps = .ok last) :
    later.walk place steps = .ok last := by
  induction steps generalizing place with
  | nil => exact walked
  | cons first rest ih =>
    rw [walk] at walked ⊢
    split at walked
    case h_1 next taken =>
      rw [step_mono h taken]
      exact ih walked
    case h_2 => cases walked

theorem locate_mono (h : tree.Preserves later) {text : String}
    (located : tree.locate text = .ok place) : later.locate text = .ok place := by
  rw [locate] at located ⊢
  split at located
  case h_1 => cases located
  case h_2 => exact walk_mono h located

/-! ## Walks taken apart -/

theorem walk_append {before after : List Step} (h : tree.walk place before = .ok last) :
    tree.walk place (before ++ after) = tree.walk last after := by
  induction before generalizing place with
  | nil =>
    obtain rfl : place = last := Except.ok.inj h
    rfl
  | cons first rest ih =>
    rw [walk] at h
    rw [List.cons_append, walk]
    split at h
    case h_1 next taken => exact ih h
    case h_2 => cases h

theorem exists_of_walk_append {before after : List Step}
    (walked : tree.walk place (before ++ after) = .ok last) :
    ∃ between, tree.walk place before = .ok between ∧ tree.walk between after = .ok last := by
  induction before generalizing place with
  | nil => exact ⟨place, rfl, walked⟩
  | cons first rest ih =>
    rw [List.cons_append, walk] at walked
    rw [walk]
    split at walked
    case h_1 next taken => exact ih walked
    case h_2 => cases walked

theorem walk_singleton (step : Step) : tree.walk place [step] = tree.step place step := by
  rw [walk]
  cases tree.step place step <;> rfl

theorem eq_of_step_name {text : String} (taken : tree.step place (.name text) = .ok last) :
    last = place ++ [text] := by
  unfold Tree.step at taken
  simp only at taken
  split_ifs at taken
  exact (Except.ok.inj taken).symm

/-- Only a name leads to something new below a place. -/
theorem eq_of_step_concat {step : Step} {name : String}
    (taken : tree.step place step = .ok (place ++ [name])) : step = .name name := by
  cases step with
  | here =>
    unfold Tree.step at taken
    split_ifs at taken
    have longer := congrArg List.length (Except.ok.inj taken)
    simp at longer
  | up =>
    unfold Tree.step at taken
    split_ifs at taken
    have longer := congrArg List.length (Except.ok.inj taken)
    rw [List.length_dropLast, List.length_append, List.length_singleton] at longer
    omega
  | name text =>
    have same := List.append_cancel_left (eq_of_step_name taken)
    rw [List.singleton_inj.1 same]

/-- Names lead downwards. -/
theorem eq_of_walk_names {names : List String} (walked : tree.walk place (names.map .name) = .ok last) :
    last = place ++ names := by
  induction names generalizing place with
  | nil =>
    obtain rfl : place = last := Except.ok.inj walked
    exact (List.append_nil place).symm
  | cons name names ih =>
    rw [List.map_cons, walk] at walked
    split at walked
    case h_1 next taken =>
      rw [ih walked, eq_of_step_name taken, List.append_assoc, List.singleton_append]
    case h_2 => cases walked

theorem walk_of_locate {text : String} (h : tree.locate text = .ok place) :
    tree.walk [] (Path.ofText text).steps = .ok place := by
  rw [locate] at h
  split at h
  case h_1 => cases h
  case h_2 => exact h

theorem ne_nil_of_locate {text : String} (h : tree.locate text = .ok place) : text.toList ≠ [] := by
  intro empty
  obtain rfl : text = "" := String.toList_inj.1 empty
  cases h

/-- A directory is entered by name. -/
theorem walk_concat_name {text : String} (walked : tree.walk [] steps = .ok place)
    (directory : tree.isDirectory place = true) (short : ¬maxNameWidth < text.utf8ByteSize)
    (present : tree.entry? (place ++ [text]) ≠ none) :
    tree.walk [] (steps ++ [.name text]) = .ok (place ++ [text]) := by
  have step : tree.step place (.name text) = .ok (place ++ [text]) := by
    unfold Tree.step
    simp only [if_pos directory, if_neg short, Option.isNone_iff_eq_none, if_neg present]
  rw [walk_append walked, walk, step]
  rfl

/-- What is approached is a directory at the end of all steps but the last. -/
theorem eq_of_approach {next : Option Step} (h : tree.approach steps = .ok (place, next)) :
    tree.walk [] steps.dropLast = .ok place ∧ tree.isDirectory place = true ∧
      steps.getLast? = next := by
  rw [approach] at h
  split at h
  case h_1 reached walked =>
    split_ifs at h with directory
    obtain ⟨rfl, rfl⟩ := Prod.mk.inj (Except.ok.inj h)
    exact ⟨walked, directory, rfl⟩
  case h_2 => cases h

/-! ## Creating directories -/

/-- Between `tree` and `later`, directories were created on the way along `steps`. Every entry that
was there before is there still. -/
structure GrowsAlong (tree later : Tree) (steps : List Step) : Prop where
  kept : ∀ location entry, tree.entry? location = some entry → later.entry? location = some entry
  created : ∀ location, tree.entry? location = none → later.entry? location ≠ none →
    later.entry? location = some .directory ∧
      ∃ passed, passed <+: steps ∧ later.walk [] passed = .ok location

namespace GrowsAlong

theorem preserves (h : tree.GrowsAlong later steps) : tree.Preserves later :=
  .of_kept h.kept

theorem refl (tree : Tree) (steps : List Step) : tree.GrowsAlong tree steps where
  kept _ _ there := there
  created _ absent present := absurd absent present

theorem trans (first : tree.GrowsAlong middle steps) (second : middle.GrowsAlong later steps) :
    tree.GrowsAlong later steps where
  kept location entry there := second.kept location entry (first.kept location entry there)
  created location absent present := by
    by_cases between : middle.entry? location = none
    · exact second.created location between present
    · obtain ⟨directory, passed, isPrefix, walked⟩ := first.created location absent between
      exact ⟨second.kept location _ directory, passed, isPrefix, walk_mono second.preserves walked⟩

theorem mono {longer : List Step} (h : tree.GrowsAlong later steps) (isPrefix : steps <+: longer) :
    tree.GrowsAlong later longer where
  kept := h.kept
  created location absent present := by
    obtain ⟨directory, passed, within, walked⟩ := h.created location absent present
    exact ⟨directory, passed, within.trans isPrefix, walked⟩

/-- No file comes, goes or changes. -/
theorem file?_eq (h : tree.GrowsAlong later steps) (location : Location) :
    later.file? location = tree.file? location :=
  file?_eq_of_kept (h.kept location) fun absent present ↦ (h.created location absent present).1

end GrowsAlong

/-- Creating one directory where nothing is. -/
theorem growsAlong_put {text : String} (walked : tree.walk [] steps = .ok place)
    (directory : tree.isDirectory place = true) (short : ¬maxNameWidth < text.utf8ByteSize)
    (absent : tree.entry? (place ++ [text]) = none) :
    tree.GrowsAlong (tree.put (place ++ [text]) .directory) (steps ++ [.name text]) := by
  have put := tree.entry?_put (List.append_ne_nil_of_right_ne_nil place (List.cons_ne_nil text []))
    .directory
  have kept : ∀ location entry, tree.entry? location = some entry →
      Tree.entry? (tree.put (place ++ [text]) .directory) location = some entry := by
    intro location entry there
    rw [put, if_neg, there]
    rintro rfl
    rw [absent] at there
    cases there
  refine ⟨kept, fun location missing present ↦ ?_⟩
  have here : location = place ++ [text] := by
    by_contra other
    rw [put, if_neg other] at present
    exact present missing
  have preserves : tree.Preserves (tree.put (place ++ [text]) .directory) := .of_kept kept
  subst here
  refine ⟨by rw [put, if_pos rfl], _, List.prefix_rfl, ?_⟩
  exact walk_concat_name (walk_mono preserves walked) (preserves.directory place directory) short
    (by rw [put, if_pos rfl]; exact Option.some_ne_none _)

theorem growsAlong_of_makeDirectory (h : tree.makeDirectory steps = .ok later) :
    tree.GrowsAlong later steps := by
  rw [makeDirectory] at h
  split at h
  case h_1 => cases h
  case h_2 place text approached =>
    obtain ⟨walked, directory, last⟩ := eq_of_approach approached
    obtain ⟨before, rfl⟩ := List.getLast?_eq_some_iff.1 last
    rw [List.dropLast_concat] at walked
    split_ifs at h with long present
    obtain rfl := Except.ok.inj h
    exact growsAlong_put walked directory long (by simpa using present)
  case h_3 => cases h

theorem growsAlong_settleDirectory (tree : Tree) (steps : List Step) :
    tree.GrowsAlong (tree.settleDirectory steps).2 steps := by
  rw [settleDirectory]
  split
  case h_1 made isMade => exact growsAlong_of_makeDirectory isMade
  case h_2 =>
    split <;> exact .refl tree steps

/-- However far the creation gets, it creates directories on its way and nothing else. -/
theorem growsAlong_ensureDirectory (tree : Tree) (reversed : List Step) :
    tree.GrowsAlong (tree.ensureDirectory reversed).2 reversed.reverse := by
  induction reversed with
  | nil => exact .refl tree _
  | cons last above ih =>
    have shorter := ih.mono (List.prefix_append above.reverse [last])
    rw [List.reverse_cons, ensureDirectory]
    split
    case h_1 =>
      split
      case h_1 grown created =>
        rw [created] at shorter
        exact shorter.trans (growsAlong_settleDirectory grown _)
      case h_2 => exact shorter
    case h_2 => exact growsAlong_settleDirectory tree _

theorem growsAlong_prepare (tree : Tree) (text : String) :
    tree.GrowsAlong (tree.prepare text).2 (Path.ofText text).parent := by
  rw [prepare]
  split_ifs
  · exact .refl tree _
  · exact .refl tree _
  · simpa using growsAlong_ensureDirectory tree (Path.ofText text).parent.reverse

/-! ## Writing a file -/

/-- A failed write leaves directories behind at most. -/
theorem growsAlong_of_write_error {text : String} {data : ByteArray} {fault : AccessFault}
    (h : tree.write text data = (.error fault, later)) :
    tree.GrowsAlong later (Path.ofText text).parent := by
  have grown := tree.growsAlong_prepare text
  rw [write] at h
  split at h
  case h_1 failed prepared =>
    obtain ⟨-, rfl⟩ := Prod.mk.inj h
    rwa [prepared] at grown
  case h_2 middle prepared =>
    rw [prepared] at grown
    split at h
    case h_1 =>
      obtain ⟨-, rfl⟩ := Prod.mk.inj h
      exact grown
    case h_2 => cases h

/-- Between `tree` and `later`, the file of a path was written, and directories were created on the
way to it. -/
structure Receives (tree later : Tree) (text : String) (place : Location) (data : ByteArray) :
    Prop where
  slashFree : (Path.ofText text).isSlashed = false
  located : later.locate text = .ok place
  file : later.file? place = some data
  free : tree.isDirectory place = false
  kept : ∀ location ≠ place, ∀ entry,
    tree.entry? location = some entry → later.entry? location = some entry
  created : ∀ location ≠ place, tree.entry? location = none → later.entry? location ≠ none →
    later.entry? location = some .directory ∧
      ∃ passed, passed <+: (Path.ofText text).parent ∧ later.walk [] passed = .ok location

/-- Every other file stays as it is. -/
theorem Receives.file?_eq {text : String} {data : ByteArray}
    (h : tree.Receives later text place data) (other : location ≠ place) :
    later.file? location = tree.file? location :=
  file?_eq_of_kept (h.kept location other) fun absent present ↦
    (h.created location other absent present).1

theorem Receives.preserves {text : String} {data : ByteArray}
    (h : tree.Receives later text place data) : tree.Preserves later where
  directory location isDirectory := by
    have other : location ≠ place := by
      rintro rfl
      rw [h.free] at isDirectory
      cases isDirectory
    rw [isDirectory_iff] at isDirectory ⊢
    exact h.kept location other _ isDirectory
  present location present := by
    by_cases here : location = place
    · rw [here, file?_eq_some_iff.1 h.file]
      exact Option.some_ne_none _
    · obtain ⟨entry, there⟩ := Option.ne_none_iff_exists'.1 present
      rw [h.kept location here entry there]
      exact Option.some_ne_none _

/-- Putting a file where no directory is preserves all places. -/
theorem preserves_put_file (nonempty : place ≠ []) (free : tree.isDirectory place = false)
    (data : ByteArray) : tree.Preserves (tree.put place (.file data)) where
  directory location isDirectory := by
    rw [isDirectory_iff] at isDirectory ⊢
    rw [entry?_put tree nonempty, if_neg, isDirectory]
    rintro rfl
    rw [isDirectory_iff.2 isDirectory] at free
    cases free
  present location present := by
    rw [entry?_put tree nonempty]
    split_ifs
    · exact Option.some_ne_none _
    · exact present

/-- What a path has to be like for its file to be written at a place. -/
theorem eq_of_target {text : String} (h : tree.target text = .ok place) :
    pathFault? text = none ∧ (Path.ofText text).isSlashed = false ∧
      tree.isDirectory place = false ∧ ∃ directory name, place = directory ++ [name] ∧
        tree.approach (Path.ofText text).steps = .ok (directory, some (.name name)) ∧
          ¬maxNameWidth < name.utf8ByteSize := by
  rw [target] at h
  split at h
  case h_1 => cases h
  case h_2 sound =>
    split at h
    case h_1 => cases h
    case h_2 directory name approached =>
      split_ifs at h with slashed long isDirectory
      obtain rfl := Except.ok.inj h
      exact ⟨sound, by simpa using slashed, by simpa using isDirectory, directory, name, rfl,
        approached, long⟩
    case h_3 => cases h

theorem ne_nil_of_target {text : String} (h : tree.target text = .ok place) : place ≠ [] := by
  obtain ⟨-, -, -, directory, name, rfl, -⟩ := eq_of_target h
  exact List.concat_ne_nil name directory

/-- The file is found afterwards where it was put. -/
theorem locate_put {text : String} (h : tree.target text = .ok place) (data : ByteArray) :
    (tree.put place (.file data)).locate text = .ok place := by
  obtain ⟨sound, -, free, directory, name, rfl, approached, short⟩ := eq_of_target h
  obtain ⟨walked, isDirectory, last⟩ := eq_of_approach approached
  obtain ⟨before, split⟩ := List.getLast?_eq_some_iff.1 last
  rw [split, List.dropLast_concat] at walked
  have nonempty : directory ++ [name] ≠ [] := List.concat_ne_nil name directory
  have preserves := preserves_put_file nonempty free data
  rw [locate, sound]
  simp only [split]
  refine walk_concat_name (walk_mono preserves walked) (preserves.directory _ isDirectory) short ?_
  rw [entry?_put tree nonempty, if_pos rfl]
  exact Option.some_ne_none _

/-- A successful write puts the file where its path leads, and creates directories at most. -/
theorem receives_of_write_ok {text : String} {data : ByteArray}
    (h : tree.write text data = (.ok (), later)) :
    ∃ place, tree.Receives later text place data := by
  have grown := tree.growsAlong_prepare text
  rw [write] at h
  split at h
  case h_1 => cases h
  case h_2 middle prepared =>
    rw [prepared] at grown
    split at h
    case h_1 => cases h
    case h_2 place isTarget =>
      obtain ⟨-, rfl⟩ := Prod.mk.inj h
      obtain ⟨-, slashFree, free, -⟩ := eq_of_target isTarget
      have nonempty := ne_nil_of_target isTarget
      have put := middle.entry?_put nonempty (.file data)
      refine ⟨place, slashFree, locate_put isTarget data, ?_, ?_, fun location other ↦ ?_,
        fun location other absent present ↦ ?_⟩
      · rw [file?_eq_some_iff, put, if_pos rfl]
      · rw [← Bool.not_eq_true] at free ⊢
        exact fun isDirectory ↦ free (grown.preserves.directory place isDirectory)
      · rw [put, if_neg other]
        exact grown.kept location
      · rw [put, if_neg other] at present ⊢
        obtain ⟨isDirectory, passed, isPrefix, walked⟩ := grown.created location absent present
        exact ⟨isDirectory, passed, isPrefix,
          walk_mono (preserves_put_file nonempty free data) walked⟩

end Rulebook.Tree

namespace Rulebook.Disk

variable {disk after : Disk} {path : String} {data : ByteArray} {answer : Except AccessFault Unit}

theorem read_eq (disk : Disk) (path : String) :
    Store.read disk path = disk.tree.read (Path.join disk.base path) :=
  rfl

/-- A disk is written to as its tree is, and keeps its base. -/
theorem write_eq_iff : Store.write disk path data = (answer, after) ↔
    disk.tree.write (Path.join disk.base path) data = (answer, after.tree) ∧
      after.base = disk.base := by
  simp only [Store.write]
  cases disk.tree.write (Path.join disk.base path) data with
  | mk given tree =>
    cases after
    simp only [Prod.mk.injEq, Disk.mk.injEq]
    tauto

theorem base_write (disk : Disk) (path : String) (data : ByteArray) :
    (Store.write disk path data).2.base = disk.base := by
  cases written : Store.write disk path data with
  | mk answer after => exact (write_eq_iff.1 written).2

theorem tree_write (disk : Disk) (path : String) (data : ByteArray) :
    (Store.write disk path data).2.tree =
      (disk.tree.write (Path.join disk.base path) data).2 := by
  cases written : Store.write disk path data with
  | mk answer after => rw [(write_eq_iff.1 written).1]

end Rulebook.Disk
