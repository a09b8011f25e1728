import Rulebook.Proofs.Store.PlainName

/-!
# Where a write lands

A write changes the file at its landing and no other: `Disk.file?_write`. A file that is read under
one path can be lost to a write under another, if the two denote the same place. What counts is the
place once the directories above it have been created, since they may be on the way to it.
-/

namespace Rulebook

namespace Tree

variable {tree later : Tree} {place : Location} {text other : String}

/-- The place where a write to a path puts its file, if it gets that far. -/
def landing? (tree : Tree) (text : String) : Option Location :=
  match tree.prepare text with
  | (.ok (), grown) => (grown.target text).toOption
  | (.error _, _) => none

/-- A write that lands puts its file into a tree that has only grown. -/
theorem write_of_landing (h : tree.landing? text = some place) (data : ByteArray) :
    (tree.prepare text).2.target text = .ok place ∧
      (tree.write text data).2 = (tree.prepare text).2.put place (.file data) := by
  rw [landing?] at h
  rw [write]
  cases prepared : tree.prepare text with
  | mk answer grown =>
    rw [prepared] at h
    cases answer with
    | error fault => cases h
    | ok done =>
      dsimp only at h ⊢
      cases target : grown.target text with
      | error fault =>
        rw [target] at h
        cases h
      | ok found =>
        rw [target] at h
        obtain rfl : found = place := Option.some.inj h
        exact ⟨rfl, rfl⟩

theorem write_of_no_landing (h : tree.landing? text = none) (data : ByteArray) :
    (tree.write text data).2 = (tree.prepare text).2 := by
  rw [landing?] at h
  rw [write]
  cases prepared : tree.prepare text with
  | mk answer grown =>
    rw [prepared] at h
    cases answer with
    | error fault => rfl
    | ok done =>
      dsimp only at h ⊢
      cases target : grown.target text with
      | error fault => rfl
      | ok found =>
        rw [target] at h
        cases h

/-- A write changes the file at its landing, and only there. -/
theorem file?_write (tree : Tree) (text : String) (data : ByteArray) (location : Location) :
    (tree.write text data).2.file? location =
      if tree.landing? text = some location then some data else tree.file? location := by
  have grown := tree.growsAlong_prepare text
  cases landing : tree.landing? text with
  | none =>
    rw [write_of_no_landing landing, if_neg (by simp)]
    exact grown.file?_eq location
  | some place =>
    obtain ⟨target, written⟩ := write_of_landing landing data
    rw [written, file?, entry?_put _ (ne_nil_of_target target)]
    by_cases here : location = place
    · rw [if_pos here, if_pos (congrArg some here.symm)]
    · rw [if_neg here, if_neg (by simpa using Ne.symm here)]
      exact grown.file?_eq location

/-- Whatever is written, every path leads where it led before. -/
theorem locate_write (h : tree.locate text = .ok place) (other : String) (data : ByteArray) :
    (tree.write other data).2.locate text = .ok place := by
  have grown := locate_mono (tree.growsAlong_prepare other).preserves h
  cases landing : tree.landing? other with
  | none =>
    rw [write_of_no_landing landing]
    exact grown
  | some reached =>
    obtain ⟨target, written⟩ := write_of_landing landing data
    obtain ⟨-, -, free, -⟩ := eq_of_target target
    rw [written]
    exact locate_mono (preserves_put_file (ne_nil_of_target target) free data) grown

/-- Afterwards the path of a write leads to its landing. -/
theorem locate_of_landing (h : tree.landing? text = some place) (data : ByteArray) :
    (tree.write text data).2.locate text = .ok place := by
  obtain ⟨target, written⟩ := write_of_landing h data
  rw [written]
  exact locate_put target data

/-- A file with a longer name is another file. -/
theorem landing?_append_ne {more : String} (located : tree.locate text = .ok place)
    (notSlashed : (Path.ofText text).isSlashed = false) (moreFree : '/' ∉ more.toList)
    (moreNonempty : more.toList ≠ []) : tree.landing? (text ++ more) ≠ some place := by
  intro lands
  obtain ⟨target, -⟩ := write_of_landing lands .empty
  obtain ⟨-, -, -, directory, name, rfl, approached, -⟩ := eq_of_target target
  obtain ⟨reached, -, isLast⟩ := eq_of_approach approached
  obtain ⟨above, last, nonempty, steps⟩ :=
    Path.exists_steps_append (ne_nil_of_locate located) notSlashed
  obtain ⟨step, isStep, stepsMore⟩ := steps more moreFree
  obtain ⟨stepHere, isStepHere, stepsHere⟩ := steps "" List.not_mem_nil
  rw [String.append_empty] at stepsHere
  -- The longer path takes the steps `above` and then one to `name`.
  rw [stepsMore, List.getLast?_concat] at isLast
  obtain rfl : step = .name name := Option.some.inj isLast
  rw [stepsMore, List.dropLast_concat] at reached
  -- The path itself takes the same steps, so it could only end with the same name.
  have walked := walk_of_locate
    (locate_mono (tree.growsAlong_prepare (text ++ more)).preserves located)
  rw [stepsHere, walk_append reached, walk_singleton] at walked
  obtain rfl := eq_of_step_concat walked
  have longer := Step.eq_of_ofPiece?_name isStep
  rw [Step.eq_of_ofPiece?_name isStepHere] at longer
  exact moreNonempty (List.append_cancel_left longer).symm

end Tree

namespace Disk

variable {disk : Disk} {path other : String} {place : Location} {data : ByteArray}

def landing? (disk : Disk) (path : String) : Option Location :=
  disk.tree.landing? (Path.join disk.base path)

/-- The path leads to a file that holds `data`. -/
structure Denotes (disk : Disk) (path : String) (place : Location) (data : ByteArray) : Prop where
  slashFree : (Path.ofText (Path.join disk.base path)).isSlashed = false
  located : disk.tree.locate (Path.join disk.base path) = .ok place
  file : disk.tree.file? place = some data

theorem file?_write (disk : Disk) (path : String) (data : ByteArray) (location : Location) :
    (Store.write disk path data).2.tree.file? location =
      if disk.landing? path = some location then some data else disk.tree.file? location := by
  rw [tree_write]
  exact disk.tree.file?_write (Path.join disk.base path) data location

namespace Denotes

theorem read (h : disk.Denotes path place data) :
    Store.read disk path = (Text.Utf8.decode data).mapError fun _ ↦ .notUtf8 := by
  rw [Disk.read_eq, Tree.read, h.located]
  dsimp only
  rw [h.file]
  dsimp only
  rw [h.slashFree]
  rfl

/-- The file of a path survives a write unless it lands there with other bytes. -/
theorem write_iff (h : disk.Denotes path place data) (other : String) (written : ByteArray) :
    (Store.write disk other written).2.Denotes path place data ↔
      (disk.landing? other = some place → written = data) := by
  have file := disk.file?_write other written place
  constructor
  · rintro after lands
    rw [after.file, if_pos lands] at file
    exact (Option.some.inj file).symm
  · intro same
    refine ⟨?slashFree, ?located, file.trans ?file⟩
    case slashFree =>
      rw [base_write]
      exact h.slashFree
    case located =>
      rw [base_write, tree_write]
      exact disk.tree.locate_write h.located (Path.join disk.base other) written
    case file =>
      split_ifs with lands
      · rw [same lands]
      · exact h.file

theorem nonempty (h : disk.Denotes path place data) : path.toList ≠ [] := by
  intro empty
  obtain rfl : path = "" := String.toList_inj.1 empty
  have joined := Tree.ne_nil_of_locate h.located
  have notSlashed := h.slashFree
  rw [Path.ofText, beq_eq_false_iff_ne] at notSlashed
  rw [Path.join] at joined notSlashed
  split_ifs at joined notSlashed with isEmpty slashed
  · exact joined rfl
  · rw [String.append_empty] at notSlashed
    exact notSlashed (beq_iff_eq.1 slashed)
  · rw [String.append_empty, String.toList_append] at notSlashed
    exact notSlashed List.getLast?_concat

/-- A write to a longer name beside a file does not land on it. -/
theorem not_landing_append (h : disk.Denotes path place data) {more : String}
    (moreFree : '/' ∉ more.toList) (moreNonempty : more.toList ≠ []) :
    disk.landing? (path ++ more) ≠ some place := by
  rw [Disk.landing?, Path.join_append h.nonempty]
  exact Tree.landing?_append_ne h.located h.slashFree moreFree moreNonempty

/-- A write to another canonical path does not land on a file with a canonical path. -/
theorem not_landing (h : disk.Denotes path place data) (canonical : IsCanonical path)
    (canonicalOther : IsCanonical other) (differ : path ≠ other) :
    disk.landing? other ≠ some place := by
  intro lands
  have located := disk.tree.locate_write h.located (Path.join disk.base other) data
  have locatedOther := Tree.locate_of_landing lands data
  exact differ (canonical.eq_of_locate canonicalOther located locatedOther)

end Denotes

end Disk

end Rulebook
