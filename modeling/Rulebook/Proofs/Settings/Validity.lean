import Rulebook.Defaults.File

/-!
# When settings are valid

A check stops at the first fault it finds.  Here is told when there is none: value arguments hold no
NUL, paths are not empty either, and the two paths of a flatten run are spelled differently.  A
defaults file passes if whatever it gives would pass by itself.
-/

namespace Rulebook

def IsNulFree (text : String) : Prop :=
  '\x00' ∉ text.toList

/-- A path that a store may be asked for. -/
structure IsPath (path : String) : Prop where
  nonempty : path ≠ ""
  nulFree : IsNulFree path

instance : DecidablePred IsNulFree :=
  fun text ↦ inferInstanceAs (Decidable ('\x00' ∉ text.toList))

instance : DecidablePred IsPath :=
  fun path ↦ decidable_of_iff (path ≠ "" ∧ IsNulFree path)
    ⟨fun ⟨nonempty, nulFree⟩ ↦ ⟨nonempty, nulFree⟩, fun h ↦ ⟨h.nonempty, h.nulFree⟩⟩

/-! ## Single checks -/

section Checks

variable {field value path input output : String}

theorem containsNul_eq_false_iff {text : String} : containsNul text = false ↔ IsNulFree text := by
  simp [containsNul, IsNulFree]

theorem checkValue_eq_ok_iff : checkValue field value = .ok () ↔ IsNulFree value := by
  rw [← containsNul_eq_false_iff, checkValue]
  cases containsNul value <;> simp

theorem checkPath_eq_ok_iff : checkPath field path = .ok () ↔ IsPath path := by
  rw [checkPath]
  split
  case isTrue empty => exact iff_of_false nofun fun h ↦ h.nonempty (String.isEmpty_iff.1 empty)
  case isFalse nonempty =>
    have named : path ≠ "" := fun empty ↦ nonempty (String.isEmpty_iff.2 empty)
    split
    case isTrue nul =>
      refine iff_of_false nofun fun h ↦ ?_
      rw [containsNul_eq_false_iff.2 h.nulFree] at nul
      cases nul
    case isFalse noNul =>
      exact iff_of_true rfl ⟨named, containsNul_eq_false_iff.1 (Bool.eq_false_iff.2 noNul)⟩

theorem checkDistinct_eq_ok_iff : checkDistinct field input output = .ok () ↔ input ≠ output := by
  rw [checkDistinct]
  split <;> simp_all

theorem DefaultsFile.checkGiven_eq_ok_iff {check : String → Except Failure Unit}
    {given : Option String} :
    checkGiven check given = .ok () ↔ ∀ value ∈ given, check value = .ok () := by
  cases given <;> simp [checkGiven]

/-- Checks in a row pass if each of them does. -/
theorem checks_eq_ok_iff {check : Except Failure Unit} {later : Unit → Except Failure Unit} :
    (check >>= later) = .ok () ↔ check = .ok () ∧ later () = .ok () := by
  cases check <;> simp [bind, Except.bind]

end Checks

/-! ## Settings -/

theorem ExpandSettings.validate_eq_ok_iff {settings : ExpandSettings} :
    settings.validate = .ok () ↔
      IsNulFree settings.source ∧ IsNulFree settings.destination ∧ IsNulFree settings.ports ∧
        IsPath settings.output := by
  simp only [validate, checks_eq_ok_iff, checkValue_eq_ok_iff, checkPath_eq_ok_iff]

namespace FlattenSettings

variable {settings : FlattenSettings}

theorem validate_eq_ok_iff :
    settings.validate = .ok () ↔
      IsPath settings.input ∧ IsPath settings.output ∧ settings.input ≠ settings.output := by
  simp only [validate, checks_eq_ok_iff, checkPath_eq_ok_iff, checkDistinct_eq_ok_iff]

/-- Of two sound paths it is only checked that they differ. -/
theorem validate_of_isPath (input : IsPath settings.input) (output : IsPath settings.output) :
    settings.validate = checkDistinct "oconfig" settings.input settings.output := by
  rw [validate, checkPath_eq_ok_iff.2 input, checkPath_eq_ok_iff.2 output]
  rfl

end FlattenSettings

/-! ## Defaults files -/

/-- The settings that are given for expanding would pass by themselves. -/
structure ExpandDefaults.IsSound (defaults : ExpandDefaults) : Prop where
  source : ∀ value ∈ defaults.source, IsNulFree value
  destination : ∀ value ∈ defaults.destination, IsNulFree value
  ports : ∀ value ∈ defaults.ports, IsNulFree value
  output : ∀ path ∈ defaults.output, IsPath path

/-- The settings that are given for flattening would pass by themselves. -/
structure FlattenDefaults.IsSound (defaults : FlattenDefaults) : Prop where
  input : ∀ path ∈ defaults.input, IsPath path
  output : ∀ path ∈ defaults.output, IsPath path

namespace DefaultsFile

variable {file : DefaultsFile}

theorem validateExpand_eq_ok_iff :
    file.validateExpand = .ok () ↔ ∀ defaults ∈ file.expand, defaults.IsSound := by
  rw [validateExpand]
  cases file.expand with
  | none => simp
  | some defaults =>
    simp only [checks_eq_ok_iff, checkGiven_eq_ok_iff, checkValue_eq_ok_iff, checkPath_eq_ok_iff]
    constructor
    · rintro ⟨source, destination, ports, output⟩ _ ⟨⟩
      exact ⟨source, destination, ports, output⟩
    · intro sound
      obtain ⟨source, destination, ports, output⟩ := sound defaults rfl
      exact ⟨source, destination, ports, output⟩

theorem validateFlatten_eq_ok_iff :
    file.validateFlatten = .ok () ↔ ∀ defaults ∈ file.flatten, defaults.IsSound := by
  rw [validateFlatten]
  cases file.flatten with
  | none => simp
  | some defaults =>
    simp only [checks_eq_ok_iff, checkGiven_eq_ok_iff, checkPath_eq_ok_iff]
    constructor
    · rintro ⟨input, output⟩ _ ⟨⟩
      exact ⟨input, output⟩
    · intro sound
      obtain ⟨input, output⟩ := sound defaults rfl
      exact ⟨input, output⟩

/-- A file passes if both its sections are sound and its log format, if it gives one, exists. -/
theorem validate_eq_ok_iff :
    file.validate = .ok () ↔
      (∀ defaults ∈ file.expand, defaults.IsSound) ∧
        (∀ defaults ∈ file.flatten, defaults.IsSound) ∧ ∃ format, file.logFormat = .ok format := by
  rw [← validateExpand_eq_ok_iff, ← validateFlatten_eq_ok_iff, validate, checks_eq_ok_iff,
    checks_eq_ok_iff]
  cases file.logFormat <;> simp [bind, Except.bind, pure, Except.pure]

end DefaultsFile

end Rulebook
