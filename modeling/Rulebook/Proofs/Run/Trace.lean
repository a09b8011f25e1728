import Rulebook.Proofs.Document.Passage
import Rulebook.Proofs.Run.Expand
import Rulebook.Proofs.Run.Milestones

/-!
# What the events of a run tell

A run on files in memory reports events from all of its stages, before and after the point where it
may fail.  Held against its result, they tell the truth: reading a document says what its issues are
and how serious, each warning and each error of the whole run has its reason, and the milestones
show how the run ended.  `events_tell` puts this together for both commands.

The events of a flatten run are known in full.  Of what an expand run says while it resolves its
arguments, it is enough that none of it is a milestone or a warning.
-/

namespace Rulebook

/-- How many of the events are of a level. -/
def Event.countAt (level : Level) (events : List Event) : Nat :=
  events.countP fun event ↦ event.level = level

@[simp] theorem Event.countAt_append (level : Level) (events more : List Event) :
    countAt level (events ++ more) = countAt level events + countAt level more :=
  List.countP_append

/-! ## Flattening -/

/-- An event as it is logged. -/
def Event.shown (event : Event) : Level × String :=
  (event.level, event.message)

/-- The line has no destination, so that it is skipped. -/
def Issue.lacksDestination : Issue → Bool
  | noDestination .. => true
  | noPorts .. | noHeader .. => false

theorem Issue.not_isFatal : (fun issue : Issue ↦ !issue.isFatal) = lacksDestination := by
  funext issue
  cases issue <;> rfl

/-- The totals of a report, in words. -/
def Report.totals (report : Report) : String :=
  let stanzas := report.document.stanzas.length
  let rules := report.rules.length
  let issues := report.issues.length
  s!"Parsed {stanzas} stanza(s), {rules} rule(s), {issues} issue(s)"

/-- The events of a run tell the issues of a document that is read in it. -/
structure Report.IsTold (report : Report) (outcome : Outcome MemoryStore String) : Prop where
  /-- Reading says one thing for each issue, and then the totals. -/
  shown : report.events.map Event.shown =
    report.issues.map (fun issue ↦ (if issue.isFatal then .error else .warn, issue.message)) ++
      [(.debug, report.totals)]
  during : .stageEntered .flatten .transforming :: report.events <:+: outcome.events
  /-- Every fatal issue is an error, and so is the refusal of the document. -/
  errors : ∀ issues, outcome.result = .error (.invalidDocument issues) →
    Event.countAt .error outcome.events = report.issues.countP Issue.isFatal + 1
  sound : (∀ issues, outcome.result ≠ .error (.invalidDocument issues)) →
    report.issues.countP Issue.isFatal = 0 ∧ Event.countAt .error outcome.events = 0
  warnings : Event.countAt .warn outcome.events = report.issues.countP Issue.lacksDestination +
    if report.issues.any Issue.lacksDestination then 1 else 0

namespace Report

variable (content : String)

theorem events_ofText :
    (ofText content).events = (ofText content).issues.map .issueFound ++
      [.documentRead (ofText content).document.stanzas.length (ofText content).rules.length
        (ofText content).issues.length] := by
  rw [rules, Document.length_rules]
  exact events_ofLines _

theorem shown_events_ofText :
    (ofText content).events.map Event.shown =
      (ofText content).issues.map
        (fun issue ↦ (if issue.isFatal then .error else .warn, issue.message)) ++
      [(.debug, (ofText content).totals)] := by
  rw [events_ofText, List.map_append, List.map_map]
  rfl

theorem filter_isMilestone_events_ofText :
    (ofText content).events.filter Event.isMilestone = [] := by
  simp [events_ofText, Event.isMilestone]

theorem countAt_error_events_ofText :
    Event.countAt .error (ofText content).events =
      (ofText content).issues.countP Issue.isFatal := by
  rw [events_ofText, Event.countAt, List.countP_append, List.countP_map]
  simp [Event.level, Function.comp_def]

theorem countAt_warn_events_ofText :
    Event.countAt .warn (ofText content).events =
      (ofText content).issues.countP Issue.lacksDestination := by
  rw [events_ofText, Event.countAt, List.countP_append, List.countP_map]
  simp [Event.level, Function.comp_def, Issue.not_isFatal]

end Report

namespace FlattenSettings

/-- What a flatten run says before it reads the document that it has opened. -/
def opening (settings : FlattenSettings) : List Event :=
  [.runStarted .flatten, .stageEntered .flatten .extracting, .documentOpened settings.input,
    .stageEntered .flatten .transforming]

/-- What it says about the report once it is complete. -/
def remarks (settings : FlattenSettings) (report : Report) : List Event :=
  (if !report.warnings.isEmpty then
    [.linesSkipped report.warnings.length settings.input] else []) ++
  [if report.hasErrors then .documentRejected settings.input
    else .rulesFlattened report.rules.length]

variable {settings : FlattenSettings} {store : MemoryStore} {content : String}

theorem run_gather (settings : FlattenSettings) (store : MemoryStore) :
    settings.gather.run store =
      ⟨(store.read settings.input).mapError (.access settings.input), store,
        [.documentOpened settings.input]⟩ := by
  rw [gather, Action.run_say_bind, Action.run_read]
  rfl

/-- The second stage ends with the result of the report, after the events of reading it. -/
theorem run_process (settings : FlattenSettings) (content : String) (store : MemoryStore) :
    (settings.process content).run store =
      ⟨flatten content, store,
        (Report.ofText content).events ++ settings.remarks (Report.ofText content)⟩ := by
  rw [process, Action.run_bind_of_ok (Action.run_sayAll ..), Action.run_sayIf, Action.run_sayIf,
    flatten, Report.result, remarks]
  cases (Report.ofText content).hasErrors with
  | true => simp [Outcome.after, Action.run_bind]
  | false => simp [Outcome.after, Action.run_bind]

theorem run_of_unread {fault : AccessFault} (unread : store.read settings.input = .error fault) :
    settings.staged.run.run store =
      ⟨.error (.access settings.input fault), store,
        [.runStarted .flatten, .stageEntered .flatten .extracting,
          .documentOpened settings.input]⟩ := by
  have gather := settings.run_gather store
  rw [unread] at gather
  exact settings.staged.run_of_gather_error gather

theorem run_of_hasErrors (read : store.read settings.input = .ok content)
    (refused : (Report.ofText content).hasErrors = true) :
    settings.staged.run.run store =
      ⟨.error (.invalidDocument (Report.ofText content).issues), store,
        settings.opening ++
          ((Report.ofText content).events ++ settings.remarks (Report.ofText content))⟩ := by
  have gather := settings.run_gather store
  have process := settings.run_process content store
  rw [read] at gather
  rw [flatten, Report.result, if_pos refused] at process
  exact settings.staged.run_of_process_error gather process

theorem run_of_sound (read : store.read settings.input = .ok content)
    (sound : (Report.ofText content).hasErrors = false) :
    settings.staged.run.run store =
      ⟨.ok settings.output, store.insert settings.output
          (Text.Utf8.encode (ruleList (Report.ofText content).rules)),
        settings.opening ++
          ((Report.ofText content).events ++ settings.remarks (Report.ofText content) ++
            [.stageEntered .flatten .loading, .runFinished .flatten settings.output])⟩ := by
  have gather := settings.run_gather store
  have process := settings.run_process content store
  rw [read] at gather
  rw [flatten, Report.result, sound] at process
  exact settings.staged.run_of_deliver_ok gather process rfl

/-- What it says when it is done with the document. -/
def closing (settings : FlattenSettings) (report : Report) : List Event :=
  if report.hasErrors then []
  else [.stageEntered .flatten .loading, .runFinished .flatten settings.output]

theorem events_of_read (read : store.read settings.input = .ok content) :
    (settings.staged.run.run store).events =
      settings.opening ++ ((Report.ofText content).events ++
        settings.remarks (Report.ofText content) ++ settings.closing (Report.ofText content)) := by
  rw [closing]
  cases verdict : (Report.ofText content).hasErrors with
  | true =>
    rw [run_of_hasErrors read verdict]
    simp
  | false =>
    rw [run_of_sound read verdict]
    simp

/-- Around the report, only the remarks on it are of a level above the usual. -/
theorem countAt_of_read (read : store.read settings.input = .ok content) {level : Level}
    (unusual : level = .warn ∨ level = .error) :
    Event.countAt level (settings.staged.run.run store).events =
      Event.countAt level (Report.ofText content).events +
        Event.countAt level (settings.remarks (Report.ofText content)) := by
  have opening : Event.countAt level settings.opening = 0 := by
    rcases unusual with rfl | rfl <;> rfl
  have closing : Event.countAt level (settings.closing (Report.ofText content)) = 0 := by
    rw [FlattenSettings.closing]
    rcases unusual with rfl | rfl <;> split <;> rfl
  rw [events_of_read read, Event.countAt_append, Event.countAt_append, Event.countAt_append,
    opening, closing, Nat.zero_add, Nat.add_zero]

section Remarks

variable (settings : FlattenSettings) (report : Report)

theorem countAt_error_remarks :
    Event.countAt .error (settings.remarks report) = if report.hasErrors then 1 else 0 := by
  rw [remarks, Event.countAt_append]
  cases report.warnings.isEmpty <;> cases report.hasErrors <;> rfl

theorem countAt_warn_remarks :
    Event.countAt .warn (settings.remarks report) =
      if report.issues.any Issue.lacksDestination then 1 else 0 := by
  have skipped : (!report.warnings.isEmpty) = report.issues.any Issue.lacksDestination := by
    rw [Report.warnings, Issue.not_isFatal, Bool.eq_iff_iff]
    simp
  rw [remarks, skipped, Event.countAt_append]
  cases report.issues.any Issue.lacksDestination <;> cases report.hasErrors <;> rfl

theorem filter_isMilestone_remarks :
    (settings.remarks report).filter Event.isMilestone = [] := by
  rw [remarks, List.filter_append]
  cases report.warnings.isEmpty <;> cases report.hasErrors <;> simp [Event.isMilestone]

end Remarks

/-- A document that can be read is told in the events, whether it is refused or not. -/
theorem isTold_of_read (read : store.read settings.input = .ok content) :
    (Report.ofText content).IsTold (settings.staged.run.run store) := by
  have errors := countAt_of_read read (.inr rfl)
  have warnings := countAt_of_read read (.inl rfl)
  rw [Report.countAt_error_events_ofText, countAt_error_remarks] at errors
  rw [Report.countAt_warn_events_ofText, countAt_warn_remarks] at warnings
  refine ⟨Report.shown_events_ofText content, ?during, fun issues failed ↦ ?errors,
    fun accepted ↦ ?sound, warnings⟩
  case during =>
    rw [events_of_read read]
    refine ⟨[.runStarted .flatten, .stageEntered .flatten .extracting,
      .documentOpened settings.input], settings.remarks (Report.ofText content) ++
        settings.closing (Report.ofText content), ?_⟩
    simp [opening]
  case errors =>
    cases verdict : (Report.ofText content).hasErrors with
    | true => rwa [verdict] at errors
    | false =>
      rw [run_of_sound read verdict] at failed
      cases failed
  case sound =>
    cases verdict : (Report.ofText content).hasErrors with
    | true =>
      rw [run_of_hasErrors read verdict] at accepted
      exact absurd rfl (accepted _)
    | false =>
      have harmless : (Report.ofText content).issues.countP Issue.isFatal = 0 := by
        simpa [Report.hasErrors] using verdict
      rw [verdict, harmless] at errors
      exact ⟨harmless, errors⟩

theorem showsEnd (settings : FlattenSettings) (store : MemoryStore) :
    (settings.staged.run.run store).ShowsEnd .flatten store := by
  cases read : store.read settings.input with
  | error fault =>
    rw [run_of_unread read]
    exact .of_error rfl
  | ok content =>
    have reading := Report.filter_isMilestone_events_ofText content
    have remarks := settings.filter_isMilestone_remarks (Report.ofText content)
    cases verdict : (Report.ofText content).hasErrors with
    | true =>
      rw [run_of_hasErrors read verdict]
      apply Outcome.ShowsEnd.of_error
      rw [List.filter_append, List.filter_append, reading, remarks]
      rfl
    | false =>
      rw [run_of_sound read verdict]
      apply Outcome.ShowsEnd.of_ok
      · rw [List.filter_append, List.filter_append, List.filter_append, reading, remarks]
        rfl
      · simp only [List.getLast?_append]
        rfl

/-- What a flatten run tells about the issues of its input: nothing if that cannot be read. -/
structure TellsIssues (settings : FlattenSettings) (store : MemoryStore)
    (outcome : Outcome MemoryStore String) : Prop where
  unread : (∀ content, store.read settings.input ≠ .ok content) →
    Event.countAt .warn outcome.events = 0 ∧ Event.countAt .error outcome.events = 0
  read : ∀ content, store.read settings.input = .ok content →
    (Report.ofText content).IsTold outcome

theorem tellsIssues (settings : FlattenSettings) (store : MemoryStore) :
    settings.TellsIssues store (settings.staged.run.run store) where
  unread absent := by
    cases read : store.read settings.input with
    | error fault =>
      rw [run_of_unread read]
      exact ⟨rfl, rfl⟩
    | ok content => exact absurd read (absent content)
  read _ := isTold_of_read

end FlattenSettings

/-! ## Expanding -/

/-- The event is no milestone and no warning. -/
structure Event.IsAside (event : Event) : Prop where
  notMilestone : event.isMilestone = false
  notWarning : (event.level == .warn) = false

/-- Resolving an argument is only said in passing. -/
theorem ValueList.reports_gather (argument : String) (store : MemoryStore) :
    (gather argument).Reports store Event.IsAside := by
  rw [gather]
  split
  · refine .bind (.say ⟨rfl, rfl⟩) fun _ _ ↦ ?_
    refine .bind (.of_events_eq_nil (by simp)) fun content _ ↦ ?_
    refine .bind (.of_events_eq_nil (by simp)) fun values _ ↦ ?_
    exact .bind (.say ⟨rfl, rfl⟩) fun _ _ ↦ .of_events_eq_nil rfl
  · exact .of_events_eq_nil rfl

namespace ExpandSettings

variable {settings : ExpandSettings} {store : MemoryStore} {lists : ValueLists}

theorem reports_gather (settings : ExpandSettings) (store : MemoryStore) :
    settings.gather.Reports store Event.IsAside := by
  refine .bind (ValueList.reports_gather _ _) fun sources _ ↦ ?_
  refine .bind (ValueList.reports_gather _ _) fun destinations _ ↦ ?_
  refine .bind (ValueList.reports_gather _ _) fun ports _ ↦ ?_
  exact .bind (.say ⟨rfl, rfl⟩) fun _ _ ↦ .of_events_eq_nil rfl

/-- What an expand run says while it resolves its arguments. -/
def gathering (settings : ExpandSettings) (store : MemoryStore) : List Event :=
  (settings.gather.run store).events

theorem run_gather (settings : ExpandSettings) (store : MemoryStore) :
    settings.staged.gather.run store = ⟨settings.resolve store, store, settings.gathering store⟩ :=
  (settings.yields_gather store).run_eq

theorem filter_isMilestone_gathering (settings : ExpandSettings) (store : MemoryStore) :
    (settings.gathering store).filter Event.isMilestone = [] := by
  rw [List.filter_eq_nil_iff]
  intro event mem
  simp [(settings.reports_gather store event mem).notMilestone]

theorem countAt_warn_gathering (settings : ExpandSettings) (store : MemoryStore) :
    Event.countAt .warn (settings.gathering store) = 0 := by
  rw [Event.countAt, List.countP_eq_zero]
  intro event mem
  exact Bool.eq_false_iff.1 (settings.reports_gather store event mem).notWarning

/-- What it says before it has gathered anything. -/
def opening : List Event :=
  [.runStarted .expand, .stageEntered .expand .extracting]

/-- What it says when it has expanded its values. -/
def closing (settings : ExpandSettings) (lists : ValueLists) : List Event :=
  [.stageEntered .expand .loading,
    .documentWriting lists.expand.stanzas.length settings.output,
    .runFinished .expand settings.output]

theorem run_of_unresolved {failure : Failure} (h : settings.resolve store = .error failure) :
    settings.staged.run.run store =
      ⟨.error failure, store, opening ++ settings.gathering store⟩ := by
  have gather := settings.run_gather store
  rw [h] at gather
  exact settings.staged.run_of_gather_error gather

theorem run_of_resolved (h : settings.resolve store = .ok lists) :
    settings.staged.run.run store =
      ⟨.ok settings.output,
        store.insert settings.output (Text.Utf8.encode lists.expand.render),
        opening ++ (settings.gathering store ++ ([.stageEntered .expand .transforming] ++
          (lists.warnings ++ settings.closing lists)))⟩ := by
  have gather := settings.run_gather store
  rw [h] at gather
  have process : (settings.staged.process lists).run store =
      ⟨.ok lists.expand, store, lists.warnings⟩ := by
    change (ExpandSettings.process lists).run store = _
    rw [ExpandSettings.process, Action.run_bind_of_ok (Action.run_sayAll ..)]
    simp [Outcome.after]
  exact settings.staged.run_of_deliver_ok gather process rfl

theorem filter_isMilestone_warnings (lists : ValueLists) :
    lists.warnings.filter Event.isMilestone = [] := by
  rw [ValueLists.warnings, List.filter_append]
  cases lists.lacksPorts <;> simp [Event.isMilestone]

/-- One warning for each ambiguous destination, and one if there are no ports for any. -/
theorem countAt_warn_warnings (lists : ValueLists) :
    Event.countAt .warn lists.warnings = lists.destinations.countP isAmbiguous +
        if lists.ports = [] ∧ lists.destinations ≠ [] then 1 else 0 := by
  have lacking : lists.lacksPorts = decide (lists.ports = [] ∧ lists.destinations ≠ []) := by
    rw [Bool.eq_iff_iff]
    simp [ValueLists.lacksPorts]
  have named : Event.countAt .warn (lists.ambiguousDestinations.map .destinationAmbiguous) =
      lists.destinations.countP isAmbiguous := by
    rw [Event.countAt, List.countP_map, List.countP_eq_length_filter (l := lists.destinations)]
    simp [Event.level, Function.comp_def, ValueLists.ambiguousDestinations]
  rw [ValueLists.warnings, Event.countAt_append, named, lacking, Nat.add_comm]
  congr 1
  split <;> simp_all [Event.countAt, Event.level]

theorem showsEnd (settings : ExpandSettings) (store : MemoryStore) :
    (settings.staged.run.run store).ShowsEnd .expand store := by
  have gathering := settings.filter_isMilestone_gathering store
  cases resolved : settings.resolve store with
  | error failure =>
    rw [run_of_unresolved resolved]
    apply Outcome.ShowsEnd.of_error
    rw [List.filter_append, gathering]
    -- No failure of an argument is one of a document.
    obtain ⟨-, argument, -, -, -, fails⟩ := failsFirst_of_resolve resolved
    cases fails <;> rfl
  | ok lists =>
    rw [run_of_resolved resolved]
    apply Outcome.ShowsEnd.of_ok
    · simp only [List.filter_append, gathering, filter_isMilestone_warnings]
      rfl
    · simp only [List.getLast?_append]
      rfl

/-- What an expand run tells about its value lists, once it has them. -/
structure TellsWarnings (settings : ExpandSettings) (store : MemoryStore)
    (outcome : Outcome MemoryStore String) : Prop where
  resolved : ∀ lists, (settings.gather.run store).result = .ok lists →
    Event.countAt .warn outcome.events = lists.destinations.countP isAmbiguous +
      if lists.ports = [] ∧ lists.destinations ≠ [] then 1 else 0
  unresolved : ∀ failure, (settings.gather.run store).result = .error failure →
    Event.countAt .warn outcome.events = 0

theorem tellsWarnings (settings : ExpandSettings) (store : MemoryStore) :
    settings.TellsWarnings store (settings.staged.run.run store) where
  resolved lists h := by
    rw [(settings.yields_gather store).result] at h
    have opened : Event.countAt .warn opening = 0 := rfl
    have entered : Event.countAt .warn [.stageEntered .expand .transforming] = 0 := rfl
    have closed : Event.countAt .warn (settings.closing lists) = 0 := rfl
    simp only [run_of_resolved h, Event.countAt_append, opened, entered, closed,
      countAt_warn_gathering, countAt_warn_warnings, Nat.zero_add, Nat.add_zero]
  unresolved failure h := by
    rw [(settings.yields_gather store).result] at h
    rw [run_of_unresolved h, Event.countAt_append, countAt_warn_gathering]
    rfl

end ExpandSettings

/-- Whatever the store and the settings, the events of a run tell what it finds wrong, how serious
that is, and how it ends. -/
theorem events_tell (store : MemoryStore) :
    (∀ settings : FlattenSettings,
      let outcome := settings.staged.run.run store
      settings.TellsIssues store outcome ∧ outcome.ShowsEnd .flatten store) ∧
    ∀ settings : ExpandSettings,
      let outcome := settings.staged.run.run store
      settings.TellsWarnings store outcome ∧ outcome.ShowsEnd .expand store :=
  ⟨fun settings ↦ ⟨settings.tellsIssues store, settings.showsEnd store⟩,
    fun settings ↦ ⟨settings.tellsWarnings store, settings.showsEnd store⟩⟩

-- A line without a destination and one without a port, and in the end a word on each kind.
example :
    let store := (∅ : MemoryStore).withFile "doc" "[a]\n,\nd\n"
    let outcome := (FlattenSettings.ofInput "doc").staged.run.run store
    outcome.events.map Event.level =
      [.info, .debug, .info, .debug, .warn, .error, .debug, .warn, .error] := rfl

end Rulebook
