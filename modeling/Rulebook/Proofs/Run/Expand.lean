import Rulebook.Proofs.Document.RoundTrip
import Rulebook.Proofs.Run.Yields
import Rulebook.Proofs.Values.ListFile

/-!
# The two endings of an expand run

An expand run on files in memory fails as the first of its arguments does that stands for no values,
or writes the document of its values.  Only the second changes the store, and only at the output
path, even if that is one of the list files.
-/

namespace Rulebook

namespace ValueList

variable {store : MemoryStore} {argument : String} {values : List String} {failure : Failure}

/-- The values that an argument stands for among files in memory. -/
inductive StandsFor (store : MemoryStore) (argument : String) (values : List String) : Prop
  | inline (notFile : isListFile argument = false) (pieces : values = splitInline argument)
  | listed (content : String) (isFile : isListFile argument = true)
      (file : store.file? argument = some (Text.Utf8.encode content))
      (sound : ∀ line ∈ lines content, ¬IsOffending line)
      (isEntries : values = entries (lines content))

/-- Why an argument stands for no values. Only a list file can fail, and it does so with its first
offending line. -/
inductive FailsWith (store : MemoryStore) (argument : String) : Failure → Prop
  | absent (isFile : isListFile argument = true) (file : store.file? argument = none) :
      FailsWith store argument (.access argument .noSuchFile)
  | invalid (data : ByteArray) (isFile : isListFile argument = true)
      (file : store.file? argument = some data) (invalid : ¬data.IsValidUTF8) :
      FailsWith store argument (.access argument (.broken (Text.Utf8.defect data)))
  | malformed (content : String) (before : List (List Char)) (line : List Char)
      (after : List (List Char)) (isFile : isListFile argument = true)
      (file : store.file? argument = some (Text.Utf8.encode content))
      (split : lines content = before ++ line :: after)
      (sound : ∀ earlier ∈ before, ¬IsOffending earlier) (offending : IsOffending line) :
      FailsWith store argument (.malformedList argument (before.length + 1) (String.ofList line))

theorem resolve_of_error {fault : AccessFault} (isFile : isListFile argument = true)
    (h : store.read argument = .error fault) :
    resolve store argument = .error (.access argument fault) := by
  have read : Store.read store argument = .error fault := h
  rw [resolve, if_pos isFile, read]
  rfl

theorem resolve_of_file? {content : String} (isFile : isListFile argument = true)
    (h : store.file? argument = some (Text.Utf8.encode content)) :
    resolve store argument = ofLines argument 1 (lines content) := by
  have read : Store.read store argument = .ok content := MemoryStore.read_eq_ok_iff.2 h
  rw [resolve, if_pos isFile, read, ← ofFile_eq]
  rfl

theorem StandsFor.resolve (h : StandsFor store argument values) :
    resolve store argument = .ok values := by
  cases h with
  | inline notFile pieces => rw [ValueList.resolve, if_neg (by simp [notFile]), pieces]
  | listed content isFile file sound isEntries =>
    rw [resolve_of_file? isFile file, ofLines_of_sound sound, isEntries]

theorem FailsWith.resolve (h : FailsWith store argument failure) :
    resolve store argument = .error failure := by
  cases h with
  | absent isFile file => exact resolve_of_error isFile (MemoryStore.read_of_file?_eq_none file)
  | invalid data isFile file invalid =>
    exact resolve_of_error isFile (MemoryStore.read_of_not_isValidUTF8 file invalid)
  | malformed content before line after isFile file split sound offending =>
    rw [resolve_of_file? isFile file, split, ofLines_of_offending sound offending,
      Nat.add_comm 1 before.length]

/-- An argument stands for values or fails. -/
theorem standsFor_or_failsWith (store : MemoryStore) (argument : String) :
    (∃ values, StandsFor store argument values) ∨ ∃ failure, FailsWith store argument failure := by
  cases isFile : isListFile argument with
  | false => exact .inl ⟨_, .inline isFile rfl⟩
  | true =>
    cases file : store.file? argument with
    | none => exact .inr ⟨_, .absent isFile file⟩
    | some data =>
      by_cases valid : data.IsValidUTF8
      · obtain ⟨content, rfl⟩ := Text.Utf8.isValidUTF8_iff_exists_encode.1 valid
        rcases sound_or_offending (lines content) with
          sound | ⟨before, line, after, split, sound, found⟩
        · exact .inl ⟨_, .listed content isFile file sound rfl⟩
        · exact .inr ⟨_, .malformed content before line after isFile file split sound found⟩
      · exact .inr ⟨_, .invalid data isFile file valid⟩

theorem resolve_eq_ok_iff_standsFor :
    resolve store argument = .ok values ↔ StandsFor store argument values := by
  refine ⟨fun h ↦ ?_, StandsFor.resolve⟩
  rcases standsFor_or_failsWith store argument with ⟨others, stands⟩ | ⟨failure, fails⟩
  · rw [stands.resolve, Except.ok.injEq] at h
    rwa [← h]
  · rw [fails.resolve] at h
    cases h

theorem resolve_eq_error_iff_failsWith :
    resolve store argument = .error failure ↔ FailsWith store argument failure := by
  refine ⟨fun h ↦ ?_, FailsWith.resolve⟩
  rcases standsFor_or_failsWith store argument with ⟨values, stands⟩ | ⟨other, fails⟩
  · rw [stands.resolve] at h
    cases h
  · rw [fails.resolve, Except.error.injEq] at h
    rwa [← h]

end ValueList

namespace ValueLists

/-- The document of the values as a text: a header for each source, and under it a line for each
destination, as long as there are ports to list there. -/
def text (lists : ValueLists) : String :=
  String.join <| lists.sources.map fun source ↦
    "[" ++ source ++ "]\n" ++
      if lists.ports = [] then ""
      else String.join <| lists.destinations.map fun destination ↦
        destination ++ String.join (lists.ports.map ("," ++ ·)) ++ "\n"

end ValueLists

theorem DestinationLine.text_eq (line : DestinationLine) :
    line.text = line.destination ++ String.join (line.ports.map ("," ++ ·)) := by
  rw [← String.toList_inj, toList_text]
  simp [List.flatMap_map]

theorem ValueLists.render_expand (lists : ValueLists) : lists.expand.render = lists.text := by
  rw [text, expand, Document.render, List.map_map]
  congr 1
  refine List.map_congr_left fun source _ ↦ ?_
  by_cases empty : lists.ports = []
  · simp [Stanza.render, Stanza.header, destinationLines, empty, String.append_assoc]
  · simp [Stanza.render, Stanza.header, destinationLines, empty, String.append_assoc,
      Function.comp_def, DestinationLine.text_eq]

namespace ExpandSettings

/-- The value arguments, in the order in which they are resolved. -/
def arguments (settings : ExpandSettings) : List String :=
  [settings.source, settings.destination, settings.ports]

/-- `failure` is that of the first argument that fails. -/
def FailsFirst (settings : ExpandSettings) (store : MemoryStore) (failure : Failure) : Prop :=
  ∃ before argument after, settings.arguments = before ++ argument :: after ∧
    (∀ earlier ∈ before, ∃ values, ValueList.StandsFor store earlier values) ∧
      ValueList.FailsWith store argument failure

section Endings

variable (settings : ExpandSettings) (store : MemoryStore) (outcome : Outcome MemoryStore String)

/-- An argument fails, and nothing is written. -/
structure EndsRejected (failure : Failure) : Prop where
  first : settings.FailsFirst store failure
  result : outcome.result = .error failure
  store : outcome.store = store

/-- All arguments stand for values, and the output holds their document. -/
structure EndsWritten (lists : ValueLists) : Prop where
  sources : ValueList.StandsFor store settings.source lists.sources
  destinations : ValueList.StandsFor store settings.destination lists.destinations
  ports : ValueList.StandsFor store settings.ports lists.ports
  result : outcome.result = .ok settings.output
  output : outcome.store.file? settings.output = some (Text.Utf8.encode lists.text)
  others : ∀ path ≠ settings.output, outcome.store.file? path = store.file? path

end Endings

inductive Ending where
  | rejected (failure : Failure)
  | written (lists : ValueLists)

/-- What the arguments came to in a run with this ending. -/
def Ending.resolved : Ending → Except Failure ValueLists
  | rejected failure => .error failure
  | written lists => .ok lists

theorem Ending.resolved_injective : Function.Injective Ending.resolved := by
  rintro (failure | lists) (other | others) h <;> cases h <;> rfl

def EndsAs (settings : ExpandSettings) (store : MemoryStore)
    (outcome : Outcome MemoryStore String) : Ending → Prop
  | .rejected failure => settings.EndsRejected store outcome failure
  | .written lists => settings.EndsWritten store outcome lists

variable {settings : ExpandSettings} {store : MemoryStore} {lists : ValueLists} {failure : Failure}

theorem resolve_eq_ok_iff_standsFor :
    settings.resolve store = .ok lists ↔
      ValueList.StandsFor store settings.source lists.sources ∧
        ValueList.StandsFor store settings.destination lists.destinations ∧
          ValueList.StandsFor store settings.ports lists.ports := by
  simp only [resolve_eq_ok_iff, ValueList.resolve_eq_ok_iff_standsFor]

/-- Arguments that cannot be resolved have a first one that fails. -/
theorem failsFirst_of_resolve (h : settings.resolve store = .error failure) :
    settings.FailsFirst store failure := by
  rw [resolve] at h
  cases source : ValueList.resolve store settings.source with
  | error fault =>
    rw [source] at h
    obtain rfl : fault = failure := Except.error.inj h
    exact ⟨[], _, _, rfl, by simp, ValueList.resolve_eq_error_iff_failsWith.1 source⟩
  | ok sources =>
    have first := ValueList.resolve_eq_ok_iff_standsFor.1 source
    rw [source] at h
    cases destination : ValueList.resolve store settings.destination with
    | error fault =>
      rw [destination] at h
      obtain rfl : fault = failure := Except.error.inj h
      exact ⟨[_], _, _, rfl, by simpa using ⟨_, first⟩,
        ValueList.resolve_eq_error_iff_failsWith.1 destination⟩
    | ok destinations =>
      have second := ValueList.resolve_eq_ok_iff_standsFor.1 destination
      rw [destination] at h
      cases ports : ValueList.resolve store settings.ports with
      | error fault =>
        rw [ports] at h
        obtain rfl : fault = failure := Except.error.inj h
        exact ⟨[_, _], _, [], rfl, by simpa using ⟨⟨_, first⟩, _, second⟩,
          ValueList.resolve_eq_error_iff_failsWith.1 ports⟩
      | ok values =>
        rw [ports] at h
        cases h

theorem FailsFirst.resolve (h : settings.FailsFirst store failure) :
    settings.resolve store = .error failure := by
  obtain ⟨before, argument, after, split, stand, fails⟩ := h
  rw [arguments] at split
  rcases before with _ | ⟨first, _ | ⟨second, before⟩⟩
  · obtain ⟨rfl, rfl⟩ := List.cons.inj split
    rw [ExpandSettings.resolve, fails.resolve]
    rfl
  · obtain ⟨rfl, rfl, rfl⟩ : settings.source = first ∧ settings.destination = argument ∧
        [settings.ports] = after := by
      simpa using split
    obtain ⟨sources, source⟩ := stand _ List.mem_cons_self
    rw [ExpandSettings.resolve, source.resolve, fails.resolve]
    rfl
  · -- Only one argument is left, so nothing stands between the second and the one that fails.
    obtain ⟨rfl, rfl, rfl, rfl⟩ : settings.source = first ∧ settings.destination = second ∧
        before = [] ∧ settings.ports = argument := by
      cases before <;> simp_all
    obtain ⟨sources, source⟩ := stand _ List.mem_cons_self
    obtain ⟨destinations, destination⟩ := stand _ (List.mem_cons_of_mem _ List.mem_cons_self)
    rw [ExpandSettings.resolve, source.resolve, destination.resolve, fails.resolve]
    rfl

theorem endsRejected_of_resolve (h : settings.resolve store = .error failure) :
    settings.EndsRejected store (settings.staged.run.run store) failure where
  first := failsFirst_of_resolve h
  result := (yields_of_resolve_error h).result
  store := (yields_of_resolve_error h).store

theorem endsWritten_of_resolve (h : settings.resolve store = .ok lists) :
    settings.EndsWritten store (settings.staged.run.run store) lists := by
  obtain ⟨sources, destinations, ports⟩ := resolve_eq_ok_iff_standsFor.1 h
  obtain ⟨result, after⟩ := yields_of_resolve h rfl
  refine ⟨sources, destinations, ports, result, ?_, fun path other ↦ ?_⟩
  · rw [after, ← lists.render_expand]
    exact if_pos rfl
  · rw [after]
    exact if_neg other

/-- What the arguments come to decides the ending. -/
theorem EndsAs.resolve {outcome : Outcome MemoryStore String} {ending : Ending}
    (h : settings.EndsAs store outcome ending) : settings.resolve store = ending.resolved := by
  cases ending with
  | rejected failure => exact h.first.resolve
  | written lists => exact resolve_eq_ok_iff_standsFor.2 ⟨h.sources, h.destinations, h.ports⟩

theorem exists_ending (settings : ExpandSettings) (store : MemoryStore) :
    ∃ ending, settings.EndsAs store (settings.staged.run.run store) ending := by
  cases h : settings.resolve store with
  | error failure => exact ⟨.rejected failure, endsRejected_of_resolve h⟩
  | ok lists => exact ⟨.written lists, endsWritten_of_resolve h⟩

/-- Whatever the store and the settings, an expand run has exactly one ending: it is rejected with
one failure and changes nothing, or it writes the document of its values. -/
theorem existsUnique_endsAs (settings : ExpandSettings) (store : MemoryStore) :
    ∃! ending, settings.EndsAs store (settings.staged.run.run store) ending := by
  obtain ⟨ending, ends⟩ := settings.exists_ending store
  exact ⟨ending, ends, fun other h ↦ Ending.resolved_injective (h.resolve.symm.trans ends.resolve)⟩

-- The output may be one of the list files: they are read before it is written.
example :
    let settings := ExpandSettings.mk "s.config" "d" "80" "s.config"
    let store := (∅ : MemoryStore).withFile "s.config" "a\n"
    (settings.staged.run.run store).store.file? "s.config" =
      some (Text.Utf8.encode "[a]\nd,80\n") := rfl

end ExpandSettings

end Rulebook
