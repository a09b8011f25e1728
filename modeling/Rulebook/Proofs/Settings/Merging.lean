import Rulebook.Proofs.Program.Options
import Rulebook.Proofs.Run.Alike
import Rulebook.Proofs.Run.Footprint
import Rulebook.Proofs.Settings.Validity

/-!
# Merged settings

Each setting comes from one of three layers, and what holds of the setting in every layer holds of
the one in force.  So sound layers merge into valid settings: into settings for expanding always,
and into settings for flattening as far as their two paths differ, which a derived output does from
its input.

Valid settings in turn hand nothing but sound paths to a store.  For an expand run this takes one
more observation, since value arguments may be empty: an empty argument names no list file.
-/

namespace Rulebook

/-! ## Merging -/

/-- What holds of a setting in each layer holds of the setting in force. -/
theorem Layered.holds {p : String → Prop} {builtIn value : String} {given file : Option String}
    (layered : Layered builtIn given file value) (isGiven : ∀ text ∈ given, p text)
    (isFiled : ∀ text ∈ file, p text) (isBuiltIn : p builtIn) : p value := by
  cases layered with
  | given => exact isGiven _ rfl
  | filed => exact isFiled _ rfl
  | builtIn => exact isBuiltIn

/-- What holds of a setting in a sound section holds of it in the file, which may lack the
section. -/
theorem forall_mem_section {δ : Type} {p : String → Prop} {given : Option δ}
    {setting : δ → Option String}
    (h : ∀ defaults ∈ given, ∀ text ∈ setting defaults, p text) :
    ∀ text ∈ given.bind setting, p text := by
  intro text mem
  obtain ⟨defaults, isGiven, isText⟩ := Option.bind_eq_some_iff.1 mem
  exact h defaults isGiven text isText

namespace ExpandArguments

/-- The settings on the command line, as a layer like that of the file. -/
def given (arguments : ExpandArguments) : ExpandDefaults :=
  ⟨arguments.source, arguments.destination, arguments.ports, arguments.output⟩

variable {arguments : ExpandArguments} {file : Option DefaultsFile}

theorem validate_settings (given : arguments.given.IsSound)
    (filed : ∀ defaults ∈ file.bind DefaultsFile.expand, defaults.IsSound) :
    (arguments.settings file).validate = .ok () := by
  rw [ExpandSettings.validate_eq_ok_iff]
  refine ⟨?source, ?destination, ?ports, ?output⟩
  case source =>
    exact (layered_getD ..).holds given.source
      (forall_mem_section fun _ mem ↦ (filed _ mem).source) (by decide)
  case destination =>
    exact (layered_getD ..).holds given.destination
      (forall_mem_section fun _ mem ↦ (filed _ mem).destination) (by decide)
  case ports =>
    exact (layered_getD ..).holds given.ports
      (forall_mem_section fun _ mem ↦ (filed _ mem).ports) (by decide)
  case output =>
    exact (layered_getD ..).holds given.output
      (forall_mem_section fun _ mem ↦ (filed _ mem).output) (by decide)

end ExpandArguments

/-- A derived output is as sound as its input. -/
theorem IsPath.defaultOutput {input : String} (h : IsPath input) :
    IsPath (FlattenSettings.defaultOutput input) where
  nonempty := by simp [FlattenSettings.defaultOutput]
  nulFree := by simpa [IsNulFree, FlattenSettings.defaultOutput] using h.nulFree

namespace FlattenArguments

/-- The settings on the command line, as a layer like that of the file. -/
def given (arguments : FlattenArguments) : FlattenDefaults :=
  ⟨arguments.input, arguments.output⟩

variable {arguments : FlattenArguments} {file : Option DefaultsFile}

/-- All that can be wrong with sound layers is that they agree on the two paths. -/
theorem validate_settings (given : arguments.given.IsSound)
    (filed : ∀ defaults ∈ file.bind DefaultsFile.flatten, defaults.IsSound) :
    (arguments.settings file).validate =
      checkDistinct "oconfig" (arguments.settings file).input (arguments.settings file).output := by
  have input : IsPath (arguments.settings file).input :=
    (layered_getD ..).holds given.input
      (forall_mem_section fun _ mem ↦ (filed _ mem).input) (by decide)
  have output : IsPath (arguments.settings file).output :=
    (layered_getD ..).holds given.output
      (forall_mem_section fun _ mem ↦ (filed _ mem).output) input.defaultOutput
  exact FlattenSettings.validate_of_isPath input output

/-- An output that no layer gives is derived from the input in force. -/
theorem output_settings (given : arguments.output = none)
    (filed : ∀ defaults ∈ file.bind DefaultsFile.flatten, defaults.output = none) :
    (arguments.settings file).output =
      FlattenSettings.defaultOutput (arguments.settings file).input := by
  have absent : (file.bind DefaultsFile.flatten).bind FlattenDefaults.output = none :=
    Option.bind_eq_none_iff.2 filed
  simp [settings, given, absent]

end FlattenArguments

/-! ## What a run asks a store for -/

/-- The paths that an action uses are within its footprint. -/
theorem Action.Within.mem_of_mem_paths {σ α : Type} [Store σ] {reads writes : List String}
    {action : Action α} (h : action.Within reads writes) {store : σ} {path : String}
    (mem : path ∈ action.paths store) : path ∈ reads ∨ path ∈ writes := by
  induction h generalizing store with
  | done | fail => cases mem
  | report event _ ih => exact ih mem
  | readFile allowed _ ih =>
    rcases List.mem_cons.1 mem with rfl | later
    · exact .inl allowed
    · exact ih _ later
  | writeFile data allowed _ ih =>
    rcases List.mem_cons.1 mem with rfl | later
    · exact .inr allowed
    · exact ih _ later

theorem ValueList.nonempty_of_isListFile {argument : String} (h : isListFile argument = true) :
    argument ≠ "" := by
  rintro rfl
  cases h

/-- On no store does the action use another path than a sound one. -/
def Action.KeepsToPaths {α : Type} (action : Action α) : Prop :=
  ∀ (σ : Type) [Store σ] (store : σ), ∀ path ∈ action.paths store, IsPath path

/-- The output and the list files of these settings are sound paths, and there are no others that
their run uses. -/
structure ExpandSettings.NamePaths (settings : ExpandSettings) : Prop where
  output : IsPath settings.output
  lists : ∀ argument ∈ settings.arguments, ValueList.isListFile argument = true → IsPath argument
  run : settings.staged.run.KeepsToPaths

/-- The input and the output of these settings are sound paths, and there are no others that their
run uses. -/
structure FlattenSettings.NamePaths (settings : FlattenSettings) : Prop where
  input : IsPath settings.input
  output : IsPath settings.output
  run : settings.staged.run.KeepsToPaths

theorem ExpandSettings.namePaths_of_validate {settings : ExpandSettings}
    (valid : settings.validate = .ok ()) : settings.NamePaths := by
  obtain ⟨source, destination, ports, output⟩ := validate_eq_ok_iff.1 valid
  have nulFree : ∀ argument ∈ settings.arguments, IsNulFree argument := by
    simp [arguments, source, destination, ports]
  have lists : ∀ argument ∈ settings.arguments, ValueList.isListFile argument = true →
      IsPath argument :=
    fun argument mem isFile ↦ ⟨ValueList.nonempty_of_isListFile isFile, nulFree argument mem⟩
  refine ⟨output, lists, fun σ _ store path mem ↦ ?_⟩
  rcases settings.within_run.mem_of_mem_paths mem with read | written
  · obtain ⟨isArgument, isFile⟩ := List.mem_filter.1 read
    exact lists path isArgument isFile
  · obtain rfl := List.mem_singleton.1 written
    exact output

theorem FlattenSettings.namePaths_of_validate {settings : FlattenSettings}
    (valid : settings.validate = .ok ()) : settings.NamePaths := by
  obtain ⟨input, output, -⟩ := validate_eq_ok_iff.1 valid
  refine ⟨input, output, fun σ _ store path mem ↦ ?_⟩
  rcases settings.within_run.mem_of_mem_paths mem with read | written
  · obtain rfl := List.mem_singleton.1 read
    exact input
  · obtain rfl := List.mem_singleton.1 written
    exact output

/-! ## Layers and settings -/

/-- The settings are refused for one reason only: both their paths are spelled the same. -/
structure FlattenSettings.ValidIfDistinct (settings : FlattenSettings) : Prop where
  iff : settings.validate = .ok () ↔ settings.input ≠ settings.output
  refused : settings.input = settings.output →
    settings.validate = .error (.invalidValue "oconfig" settings.output .sameAsInput)

theorem FlattenSettings.ValidIfDistinct.of_validate {settings : FlattenSettings}
    (h : settings.validate = checkDistinct "oconfig" settings.input settings.output) :
    settings.ValidIfDistinct where
  iff := by rw [h, checkDistinct_eq_ok_iff]
  refused same := by rw [h, checkDistinct, if_pos same]

section Sections

variable {file : Option DefaultsFile} (valid : ∀ content ∈ file, content.validate = .ok ())
include valid

/-- A valid file has sound settings for expanding, if it has any. -/
theorem isSound_expand_of_validate :
    ∀ defaults ∈ file.bind DefaultsFile.expand, defaults.IsSound := by
  intro defaults mem
  obtain ⟨content, isFile, isSection⟩ := Option.bind_eq_some_iff.1 mem
  exact (DefaultsFile.validate_eq_ok_iff.1 (valid content isFile)).1 defaults isSection

/-- A valid file has sound settings for flattening, if it has any. -/
theorem isSound_flatten_of_validate :
    ∀ defaults ∈ file.bind DefaultsFile.flatten, defaults.IsSound := by
  intro defaults mem
  obtain ⟨content, isFile, isSection⟩ := Option.bind_eq_some_iff.1 mem
  exact (DefaultsFile.validate_eq_ok_iff.1 (valid content isFile)).2.1 defaults isSection

end Sections

/-- If the file is valid and all that the command line gives is sound, merging them gives valid
settings, as far as a rule list does not go where its document is. And whatever the layers are, once
merged settings are valid their run uses sound paths only. -/
theorem validate_merged_settings (file : Option DefaultsFile) :
    ((∀ content ∈ file, content.validate = .ok ()) →
      (∀ arguments : ExpandArguments, arguments.given.IsSound →
        (arguments.settings file).validate = .ok ()) ∧
      ∀ arguments : FlattenArguments, arguments.given.IsSound →
        (arguments.settings file).ValidIfDistinct ∧
          (arguments.output = none →
            (∀ defaults ∈ file.bind DefaultsFile.flatten, defaults.output = none) →
              (arguments.settings file).validate = .ok ())) ∧
    (∀ arguments : ExpandArguments, (arguments.settings file).validate = .ok () →
      (arguments.settings file).NamePaths) ∧
    ∀ arguments : FlattenArguments, (arguments.settings file).validate = .ok () →
      (arguments.settings file).NamePaths := by
  refine ⟨fun valid ↦ ⟨fun arguments given ↦ ?expand, fun arguments given ↦ ?flatten⟩,
    fun _ ↦ ExpandSettings.namePaths_of_validate, fun _ ↦ FlattenSettings.namePaths_of_validate⟩
  case expand => exact arguments.validate_settings given (isSound_expand_of_validate valid)
  case flatten =>
    have merged : (arguments.settings file).ValidIfDistinct :=
      .of_validate <| arguments.validate_settings given (isSound_flatten_of_validate valid)
    refine ⟨merged, fun notGiven notFiled ↦ merged.iff.2 fun same ↦ ?_⟩
    have derived := arguments.output_settings notGiven notFiled
    exact FlattenSettings.defaultOutput_ne _ (derived.symm.trans same.symm)

/-- A file that would write where it reads, unless the command line gives another output. -/
theorem validate_merged_settings_web :
    let file := DefaultsFile.mk none (some ⟨some "web", some "web"⟩) none
    let common := CommonArguments.mk none false none
    let kept := (FlattenArguments.mk none none common).settings file
    let moved := (FlattenArguments.mk none (some "rules") common).settings file
    let expand := (ExpandArguments.mk (some "") (some "d.config") none none common).settings file
    file.validate = .ok () ∧
      kept.validate = .error (.invalidValue "oconfig" "web" .sameAsInput) ∧
      (moved.validate = .ok () ∧ moved.NamePaths) ∧
      expand.validate = .ok () ∧ expand.NamePaths := by
  intro file common kept moved expand
  have valid : file.validate = .ok () := rfl
  obtain ⟨merged, expandPaths, flattenPaths⟩ := validate_merged_settings (some file)
  obtain ⟨expandValid, flattenValid⟩ := merged (by rintro _ ⟨⟩; exact valid)
  have refused := (flattenValid ⟨none, none, common⟩ ⟨nofun, nofun⟩).1.refused rfl
  have distinct :=
    (flattenValid ⟨none, some "rules", common⟩ ⟨nofun, by decide⟩).1.iff.2 (by decide)
  have listed := expandValid ⟨some "", some "d.config", none, none, common⟩
    ⟨by decide, by decide, nofun, nofun⟩
  exact ⟨valid, refused, ⟨distinct, flattenPaths _ distinct⟩, listed, expandPaths _ listed⟩

end Rulebook
