import Rulebook.Proofs.Document.Outline
import Rulebook.Proofs.Run.Yields

/-!
# The three endings of a flatten run

A flatten run on files in memory cannot read its input, or refuses it for its fatal lines, or writes
all its rules.  Only the last of these changes the store, and only at the output path.
-/

namespace Rulebook

namespace FlattenSettings

section Endings

variable (settings : FlattenSettings) (store : MemoryStore) (outcome : Outcome MemoryStore String)

/-- The run fails with a fault of reading the input. -/
def FailsToRead (kind : AccessKind) : Prop :=
  ∃ fault : AccessFault, fault.kind = kind ∧ outcome.result = .error (.access settings.input fault)

/-- The input is missing or it is not UTF-8. -/
structure EndsUnread : Prop where
  result : (store.file? settings.input = none ∧ settings.FailsToRead outcome .notFound) ∨
    ∃ data, store.file? settings.input = some data ∧ ¬data.IsValidUTF8 ∧
      settings.FailsToRead outcome .invalidData
  store : outcome.store = store

/-- The input has a fatal line, and the failure keeps the issues of all its lines. -/
structure EndsRefused (content : String) : Prop where
  input : store.file? settings.input = some (Text.Utf8.encode content)
  fatal : Outline.HasFatalLine (Outline.lines content)
  result : outcome.result = .error (.invalidDocument (Outline.issues (Outline.lines content)))
  store : outcome.store = store

/-- The output holds one line for each rule of the input. -/
structure EndsDelivered (content : String) : Prop where
  input : store.file? settings.input = some (Text.Utf8.encode content)
  sound : ¬Outline.HasFatalLine (Outline.lines content)
  result : outcome.result = .ok settings.output
  output : outcome.store.file? settings.output = some (Text.Utf8.encode <| String.join <|
    (Report.ofText content).document.rules.map fun rule ↦
      rule.source ++ "," ++ rule.destination ++ "," ++ rule.port ++ "\n")
  others : ∀ path ≠ settings.output, outcome.store.file? path = store.file? path

end Endings

inductive Ending where
  | unread
  | refused
  | delivered

def EndsAs (settings : FlattenSettings) (store : MemoryStore)
    (outcome : Outcome MemoryStore String) : Ending → Prop
  | .unread => settings.EndsUnread store outcome
  | .refused => ∃ content, settings.EndsRefused store outcome content
  | .delivered => ∃ content, settings.EndsDelivered store outcome content

variable {settings : FlattenSettings} {store : MemoryStore} {content : String}

/-! ## Running the stages -/

theorem yields_of_unread {fault : AccessFault} (h : store.read settings.input = .error fault) :
    settings.staged.run.Yields store (.error (.access settings.input fault)) store := by
  have gather := settings.yields_gather store
  rw [show Store.read store settings.input = .error fault from h] at gather
  exact StagedRun.yields_of_gather_error gather

theorem yields_gather_of_file? (h : store.file? settings.input = some (Text.Utf8.encode content)) :
    settings.staged.gather.Yields store (.ok content) store := by
  have gather := settings.yields_gather store
  rwa [show Store.read store settings.input = .ok content from MemoryStore.read_eq_ok_iff.2 h]
    at gather

theorem yields_of_fatal (input : store.file? settings.input = some (Text.Utf8.encode content))
    (fatal : Outline.HasFatalLine (Outline.lines content)) :
    settings.staged.run.Yields store
      (.error (.invalidDocument (Outline.issues (Outline.lines content)))) store := by
  have process := settings.yields_process content store
  rw [flatten, Report.result, if_pos ((Report.hasErrors_ofText_iff content).2 fatal),
    Report.issues_ofText] at process
  exact StagedRun.yields_of_process_error (yields_gather_of_file? input) process

theorem yields_of_sound (input : store.file? settings.input = some (Text.Utf8.encode content))
    (sound : ¬Outline.HasFatalLine (Outline.lines content)) :
    settings.staged.run.Yields store (.ok settings.output) (store.insert settings.output
      (Text.Utf8.encode (ruleList (Report.ofText content).document.rules))) := by
  have process := settings.yields_process content store
  rw [flatten, Report.result, if_neg (mt (Report.hasErrors_ofText_iff content).1 sound)] at process
  exact StagedRun.yields_of_deliver (yields_gather_of_file? input) process
    (settings.yields_deliver _ rfl)

/-! ## One ending for every run -/

theorem endsUnread_of_absent (h : store.file? settings.input = none) :
    settings.EndsUnread store (settings.staged.run.run store) := by
  obtain ⟨result, same⟩ := yields_of_unread (MemoryStore.read_of_file?_eq_none h)
  exact ⟨.inl ⟨h, .noSuchFile, rfl, result⟩, same⟩

theorem endsUnread_of_invalid {data : ByteArray} (h : store.file? settings.input = some data)
    (invalid : ¬data.IsValidUTF8) :
    settings.EndsUnread store (settings.staged.run.run store) := by
  obtain ⟨result, same⟩ := yields_of_unread (MemoryStore.read_of_not_isValidUTF8 h invalid)
  exact ⟨.inr ⟨data, h, invalid, .broken (Text.Utf8.defect data), rfl, result⟩, same⟩

theorem endsRefused_of_fatal (input : store.file? settings.input = some (Text.Utf8.encode content))
    (fatal : Outline.HasFatalLine (Outline.lines content)) :
    settings.EndsRefused store (settings.staged.run.run store) content :=
  ⟨input, fatal, (yields_of_fatal input fatal).result, (yields_of_fatal input fatal).store⟩

theorem endsDelivered_of_sound
    (input : store.file? settings.input = some (Text.Utf8.encode content))
    (sound : ¬Outline.HasFatalLine (Outline.lines content)) :
    settings.EndsDelivered store (settings.staged.run.run store) content := by
  obtain ⟨result, after⟩ := yields_of_sound input sound
  refine ⟨input, sound, result, ?_, fun path other ↦ ?_⟩
  · rw [after, MemoryStore.file?_insert, if_pos rfl]
    rfl
  · rw [after, MemoryStore.file?_insert, if_neg other]

theorem exists_ending (settings : FlattenSettings) (store : MemoryStore) :
    ∃ ending, settings.EndsAs store (settings.staged.run.run store) ending := by
  cases input : store.file? settings.input with
  | none => exact ⟨.unread, endsUnread_of_absent input⟩
  | some data =>
    by_cases valid : data.IsValidUTF8
    · obtain ⟨content, rfl⟩ := Text.Utf8.isValidUTF8_iff_exists_encode.1 valid
      by_cases fatal : Outline.HasFatalLine (Outline.lines content)
      · exact ⟨.refused, content, endsRefused_of_fatal input fatal⟩
      · exact ⟨.delivered, content, endsDelivered_of_sound input fatal⟩
    · exact ⟨.unread, endsUnread_of_invalid input valid⟩

end FlattenSettings

end Rulebook
