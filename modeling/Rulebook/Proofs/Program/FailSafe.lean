import Rulebook.Proofs.Run.Publication
import Rulebook.Proofs.Store.Growth

/-!
# What a program leaves on disk

The exit code tells what a program has done to the disk: nothing for a usage error or a request for
help, no more than some empty directories for a failure, and one written file for a success.
-/

namespace Rulebook

namespace Program

section Statements

variable (command : Command) (arguments : List String) (environment : Substitution.Environment)
  (disk after : Disk)

/-- The command line can be read, and so can the defaults file that it names. -/
structure Takes (invocation : Invocation) (file : Option DefaultsFile) : Prop where
  read : Invocation.read command arguments = .ok invocation
  defaults : defaults environment disk invocation.common = .ok file

/-- The path on disk that the output of a command is written to. -/
def outputPath (invocation : Invocation) (file : Option DefaultsFile) : String :=
  Path.join disk.base (invocation.output file)

/-- No file has come, gone or changed. All that may be new are directories on the way to the
output. -/
structure Spares : Prop where
  files : ∀ location, after.tree.file? location = disk.tree.file? location
  kept : ∀ location entry,
    disk.tree.entry? location = some entry → after.tree.entry? location = some entry
  created : ∀ location, disk.tree.entry? location = none → after.tree.entry? location ≠ none →
    after.tree.entry? location = some .directory ∧
      ∃ invocation file, Takes command arguments environment disk invocation file ∧
        ∃ passed, passed <+: (Path.ofText (outputPath disk invocation file)).parent ∧
          after.tree.walk [] passed = .ok location

/-- The output path denotes the file at `place`, which holds `text`. No other file has come, gone or
changed, and no directory has gone. -/
structure Delivers (invocation : Invocation) (file : Option DefaultsFile) (text : String)
    (place : Location) : Prop where
  takes : Takes command arguments environment disk invocation file
  product : invocation.checkedProduct file disk = .ok text
  located : after.tree.locate (outputPath disk invocation file) = .ok place
  output : after.tree.file? place = some (Text.Utf8.encode text)
  others : ∀ location ≠ place, after.tree.file? location = disk.tree.file? location
  directories : ∀ location,
    disk.tree.isDirectory location = true → after.tree.isDirectory location = true

end Statements

variable {command : Command} {arguments : List String} {environment : Substitution.Environment}
  {disk after : Disk} {invocation : Invocation} {file : Option DefaultsFile}

theorem spares_refl : Spares command arguments environment disk disk where
  files _ := rfl
  kept _ _ there := there
  created _ absent present := absurd absent present

theorem spares_of_growsAlong (takes : Takes command arguments environment disk invocation file)
    (h : disk.tree.GrowsAlong after.tree (Path.ofText (outputPath disk invocation file)).parent) :
    Spares command arguments environment disk after where
  files := h.file?_eq
  kept := h.kept
  created location absent present := by
    obtain ⟨directory, passed⟩ := h.created location absent present
    exact ⟨directory, invocation, file, takes, passed⟩

theorem delivers_of_receives {text : String} {place : Location}
    (takes : Takes command arguments environment disk invocation file)
    (product : invocation.checkedProduct file disk = .ok text)
    (h : disk.tree.Receives after.tree (outputPath disk invocation file) place
      (Text.Utf8.encode text)) :
    Delivers command arguments environment disk after invocation file text place where
  takes := takes
  product := product
  located := h.located
  output := h.file
  others _ other := h.file?_eq other
  directories := h.preserves.directory

theorem prepare_of_defaults {arguments : CommonArguments}
    (h : defaults environment disk arguments = .ok file) :
    prepare environment disk arguments =
      (arguments.logging file).map fun logging ↦ (file, logging) := by
  rw [prepare, h]
  change (arguments.logging file >>= fun logging ↦ pure (file, logging)) = _
  cases arguments.logging file with
  | error failure => rfl
  | ok logging => rfl

theorem defaults_of_prepare {arguments : CommonArguments} {logging : LoggingSettings}
    (h : prepare environment disk arguments = .ok (file, logging)) :
    defaults environment disk arguments = .ok file := by
  cases loaded : defaults environment disk arguments with
  | error failure =>
    rw [prepare, loaded] at h
    cases h
  | ok found =>
    rw [prepare_of_defaults loaded] at h
    cases chosen : arguments.logging found with
    | error failure =>
      rw [chosen] at h
      cases h
    | ok settings =>
      rw [chosen] at h
      cases h
      rfl

section Run

variable (environment disk)

/-- A command line that is not understood is a usage error or a request for help. -/
theorem run_of_fault {fault : UsageFault} (h : Invocation.read command arguments = .error fault) :
    (run command arguments environment disk).disk = disk ∧
      ((run command arguments environment disk).exitCode = 2 ∨
        (run command arguments environment disk).exitCode = 0 ∧
          (run command arguments environment disk).display = .help) := by
  rw [run, h]
  cases fault with
  | helpWanted => exact ⟨rfl, .inr ⟨rfl, rfl⟩⟩
  | _ => exact ⟨rfl, .inl rfl⟩

/-- A command that is carried out ends in a failure that spares all files or in a delivery. -/
theorem run_of_invocation (h : Invocation.read command arguments = .ok invocation) :
    (run command arguments environment disk).exitCode = 1 ∧
        Spares command arguments environment disk (run command arguments environment disk).disk ∨
      (run command arguments environment disk).exitCode = 0 ∧ ∃ file text place,
        Delivers command arguments environment disk (run command arguments environment disk).disk
          invocation file text place := by
  rw [run, h]
  dsimp only
  rw [invoke]
  cases prepared : prepare environment disk invocation.common with
  | error failure => exact .inl ⟨rfl, spares_refl⟩
  | ok found =>
    obtain ⟨file, logging⟩ := found
    have takes : Takes command arguments environment disk invocation file :=
      ⟨h, defaults_of_prepare prepared⟩
    have published := invocation.publishes_body file disk
    dsimp only
    cases product : invocation.checkedProduct file disk with
    | error failure =>
      obtain ⟨result, same⟩ := published.failed failure product
      rw [result, same]
      exact .inl ⟨rfl, spares_refl⟩
    | ok text =>
      cases write : Store.write disk (invocation.output file) (Text.Utf8.encode text) with
      | mk answer after =>
        obtain ⟨result, left⟩ := published.written text answer after product write
        rw [result, left]
        cases answer with
        | error fault =>
          have grown := Tree.growsAlong_of_write_error (Disk.write_eq_iff.1 write).1
          exact .inl ⟨rfl, spares_of_growsAlong takes grown⟩
        | ok done =>
          obtain ⟨place, received⟩ := Tree.receives_of_write_ok (Disk.write_eq_iff.1 write).1
          exact .inr ⟨rfl, file, text, place, delivers_of_receives takes product received⟩

end Run

/-- Only a request for help is answered with help. -/
theorem display_ne_help (h : Invocation.read command arguments = .ok invocation) :
    (run command arguments environment disk).display ≠ .help := by
  rw [run, h]
  dsimp only
  rw [invoke]
  cases prepare environment disk invocation.common with
  | error failure => exact Display.noConfusion
  | ok found => exact Display.noConfusion

/-- Whatever the arguments, the environment and the disk, a program that exits with a usage error or
shows help leaves the disk as it was. One that fails spares all files, and one that succeeds has
written its whole output and no other file. -/
theorem run_failSafe (command : Command) (arguments : List String)
    (environment : Substitution.Environment) (disk : Disk) :
    let outcome := run command arguments environment disk
    (outcome.exitCode = 2 ∨ outcome.display = .help → outcome.disk = disk) ∧
      (outcome.exitCode = 1 → Spares command arguments environment disk outcome.disk) ∧
        (outcome.exitCode = 0 → outcome.display ≠ .help → ∃ invocation file text place,
          Delivers command arguments environment disk outcome.disk invocation file text place) := by
  intro outcome
  cases read : Invocation.read command arguments with
  | error fault =>
    obtain ⟨same, ends⟩ := run_of_fault environment disk read
    rcases ends with usage | ⟨success, help⟩
    · exact ⟨fun _ ↦ same, fun failed ↦ absurd (usage.symm.trans failed) (by decide),
        fun success ↦ absurd (usage.symm.trans success) (by decide)⟩
    · exact ⟨fun _ ↦ same, fun failed ↦ absurd (success.symm.trans failed) (by decide),
        fun _ noHelp ↦ absurd help noHelp⟩
  | ok invocation =>
    have noHelp : outcome.display ≠ .help := display_ne_help read
    rcases run_of_invocation environment disk read with
      ⟨failed, spares⟩ | ⟨success, delivers⟩
    · refine ⟨?_, fun _ ↦ spares, fun success ↦ absurd (failed.symm.trans success) (by decide)⟩
      rintro (usage | help)
      · exact absurd (failed.symm.trans usage) (by decide)
      · exact absurd help noHelp
    · refine ⟨?_, fun failed ↦ absurd (success.symm.trans failed) (by decide),
        fun _ _ ↦ ⟨invocation, delivers⟩⟩
      rintro (usage | help)
      · exact absurd (success.symm.trans usage) (by decide)
      · exact absurd help noHelp

end Program

end Rulebook
