import Rulebook.Proofs.Store.Landing

/-!
# Reading back what was written

A write to a disk either puts its file where the path leads, or fails and says which path. Reading
the path afterwards gives the text that was written. However the path is spelled and however far the
write gets, it takes nothing away, and all else that is new are directories: `wrote_or_failed`.
-/

namespace Rulebook.Disk

section Statements

variable (disk after : Disk) (path : String) (data : ByteArray)

/-- Nothing was removed, and files have neither come nor changed, except at one place at most. -/
structure ChangesOnly (place? : Option Location) : Prop where
  base : after.base = disk.base
  files : ∀ location, place? ≠ some location →
    after.tree.file? location = disk.tree.file? location
  kept : disk.tree.Preserves after.tree
  created : ∀ location, place? ≠ some location → disk.tree.entry? location = none →
    after.tree.entry? location ≠ none → after.tree.isDirectory location = true

/-- The path is read as the text of the bytes, or else it is named as not being UTF-8. -/
structure ReadsAs : Prop where
  text : ∀ content, ((Action.read path).run disk).result = .ok content ↔
    data = Text.Utf8.encode content
  invalid : ∀ failure, ((Action.read path).run disk).result = .error failure ↔
    ¬data.IsValidUTF8 ∧ failure = .access path .notUtf8

/-- The path denotes the file at the place, which holds the bytes. If it led anywhere before, it was
to the same place. -/
structure Wrote (place : Location) : Prop where
  denotes : after.Denotes path place data
  readsAs : after.ReadsAs path data
  same : ∀ former, disk.tree.locate (Path.join disk.base path) = .ok former → former = place
  only : disk.ChangesOnly after (some place)

end Statements

variable {disk after : Disk} {path : String} {data : ByteArray} {place : Location}

theorem Denotes.readsAs (h : disk.Denotes path place data) : disk.ReadsAs path data := by
  have result : ((Action.read path).run disk).result =
      (Text.Utf8.decode data).mapError fun _ ↦ .access path .notUtf8 := by
    rw [Action.run_read, h.read]
    cases Text.Utf8.decode data <;> rfl
  constructor
  · intro content
    rw [result, ← Text.Utf8.decode_eq_ok_iff]
    cases Text.Utf8.decode data with
    | ok text =>
      rw [Except.ok.injEq]
      exact ⟨Except.ok.inj, congrArg Except.ok⟩
    | error defect => exact iff_of_false nofun nofun
  · intro failure
    rw [result]
    by_cases valid : data.IsValidUTF8
    · obtain ⟨text, rfl⟩ := Text.Utf8.isValidUTF8_iff_exists_encode.1 valid
      rw [Text.Utf8.decode_encode]
      exact iff_of_false nofun fun h ↦ h.1 valid
    · rw [Text.Utf8.decode_of_not_isValidUTF8 valid]
      constructor
      · intro fails
        exact ⟨valid, (Except.error.inj fails).symm⟩
      · rintro ⟨-, rfl⟩
        rfl

theorem changesOnly_of_growsAlong {steps : List Step} (base : after.base = disk.base)
    (h : disk.tree.GrowsAlong after.tree steps) : disk.ChangesOnly after none where
  base := base
  files location _ := h.file?_eq location
  kept := h.preserves
  created location _ absent present :=
    Tree.isDirectory_iff.2 (h.created location absent present).1

theorem wrote_of_receives (base : after.base = disk.base)
    (h : disk.tree.Receives after.tree (Path.join disk.base path) place data) :
    disk.Wrote after path data place := by
  have preserves := h.preserves
  have denotes : after.Denotes path place data := by
    refine ⟨?_, ?_, h.file⟩
    · rw [base]
      exact h.slashFree
    · rw [base]
      exact h.located
  refine ⟨denotes, denotes.readsAs, fun former located ↦ ?_, base, fun location other ↦ ?_,
    preserves, fun location other absent present ↦ ?_⟩
  · exact Except.ok.inj ((Tree.locate_mono preserves located).symm.trans h.located)
  · exact h.file?_eq fun here ↦ other (congrArg some here.symm)
  · have elsewhere : location ≠ place := fun here ↦ other (congrArg some here.symm)
    exact Tree.isDirectory_iff.2 (h.created location elsewhere absent present).1

/-- Whatever the disk, the path and the bytes, a write either succeeds, and then its file can be read
back and no other file has come, gone or changed, or fails naming the path, and then no file has. In
both cases nothing is removed, and nothing but directories is added besides. -/
theorem wrote_or_failed (disk : Disk) (path : String) (data : ByteArray) :
    let outcome := (Action.write path data).run disk
    (outcome.result = .ok () ∧ ∃ place, disk.Wrote outcome.store path data place) ∨
      ∃ fault, outcome.result = .error (.access path fault) ∧
        disk.ChangesOnly outcome.store none := by
  intro outcome
  cases write : Store.write disk path data with
  | mk answer after =>
    have run : outcome = ⟨answer.mapError (.access path), after, []⟩ := by
      have ran := Action.run_write path data disk
      rw [write] at ran
      exact ran
    obtain ⟨written, base⟩ := Disk.write_eq_iff.1 write
    rw [run]
    cases answer with
    | ok done =>
      obtain ⟨place, received⟩ := Tree.receives_of_write_ok written
      exact .inl ⟨rfl, place, wrote_of_receives base received⟩
    | error fault =>
      have grown := Tree.growsAlong_of_write_error written
      exact .inr ⟨fault, rfl, changesOnly_of_growsAlong base grown⟩

-- The directory `new` is made although the path only passes through it, and it stays even where the
-- write fails.
example :
    let disk : Disk := ⟨".", ∅⟩
    let written := (Action.write "new/.././/config" ⟨#[255]⟩).run disk
    let failed := (Action.write "new/../config/" ⟨#[255]⟩).run disk
    written.result = .ok () ∧ written.store.tree.file? ["config"] = some ⟨#[255]⟩ ∧
      failed.result = .error (.access "new/../config/" .isADirectory) ∧
        failed.store.tree.isDirectory ["new"] = true :=
  ⟨rfl, rfl, rfl, rfl⟩

end Rulebook.Disk
