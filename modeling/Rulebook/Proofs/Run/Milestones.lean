import Rulebook.Proofs.Run.Yields

/-!
# How far a run comes

A run marks its progress by milestones: its start, the stages it enters, and its end.  Its whole
outcome follows from those of its stages, events included, so that the milestones can be held
against the result.  On files in memory, where no write fails, they tell how the run ended
(`Outcome.ShowsEnd`).

Where the events of a stage are not needed in full, `Action.Reports` keeps what holds of all of
them.
-/

namespace Rulebook

/-! ## Outcomes of sequences -/

namespace Action

variable {σ α β : Type} [Store σ] {store between after : σ} {action : Action α}
  {next : α → Action β} {value : α} {events : List Event}

theorem run_say_bind (event : Event) (rest : Unit → Action β) (store : σ) :
    (say event >>= rest).run store = ((rest ()).run store).after [event] :=
  run_bind_of_ok (run_say event store)

theorem run_sayIf (condition : Bool) (event : Event) (rest : Unit → Action β) (store : σ) :
    (if condition = true then say event >>= rest else rest ()).run store =
      ((rest ()).run store).after (if condition then [event] else []) := by
  cases condition with
  | true => exact run_say_bind event rest store
  | false => rfl

/-- Every event that is reported on this store satisfies `p`. -/
def Reports (action : Action α) (store : σ) (p : Event → Prop) : Prop :=
  ∀ event ∈ (action.run store).events, p event

theorem Reports.bind {p : Event → Prop} (first : action.Reports store p)
    (later : ∀ value (between : σ), (next value).Reports between p) :
    (action >>= next).Reports store p := by
  intro event mem
  rcases run : action.run store with ⟨result, between, events⟩
  rw [Reports, run] at first
  cases result with
  | error failure =>
    rw [run_bind_of_error run] at mem
    exact first event mem
  | ok value =>
    rw [run_bind_of_ok run] at mem
    rcases List.mem_append.1 mem with before | behind
    · exact first event before
    · exact later value between event behind

theorem Reports.say {p : Event → Prop} {event : Event} (h : p event) :
    (Action.say event).Reports store p := by
  simpa [Reports] using h

theorem Reports.of_events_eq_nil {p : Event → Prop} (h : (action.run store).events = []) :
    action.Reports store p := by
  simp [Reports, h]

end Action

/-! ## Milestones -/

/-- The events by which a run marks how far it has come. -/
def Event.isMilestone : Event → Bool
  | runStarted _ | stageEntered .. | runFinished .. => true
  | _ => false

/-- The milestones of a run with this result. A document is refused in the second stage, and what
cannot be gathered fails in the first. -/
def Command.milestones (command : Command) : Except Failure String → List Event
  | .ok output =>
    [.runStarted command, .stageEntered command .extracting, .stageEntered command .transforming,
      .stageEntered command .loading, .runFinished command output]
  | .error (.invalidDocument _) =>
    [.runStarted command, .stageEntered command .extracting, .stageEntered command .transforming]
  | .error _ => [.runStarted command, .stageEntered command .extracting]

namespace Command

variable (command : Command) {result : Except Failure String}

theorem loading_mem_milestones_iff :
    .stageEntered command .loading ∈ command.milestones result ↔
      ∃ output, result = .ok output := by
  rcases result with failure | output
  · cases failure <;> simp [milestones]
  · simp [milestones]

theorem runFinished_mem_milestones_iff {output : String} :
    .runFinished command output ∈ command.milestones result ↔ result = .ok output := by
  rcases result with failure | written
  · cases failure <;> simp [milestones]
  · simpa [milestones] using eq_comm

end Command

namespace StagedRun

variable {σ α β : Type} [Store σ] (staged : StagedRun α β) {store gathered processed after : σ}
  {input : α} {product : β} {output : String} {failure : Failure}
  {gathering processing delivering : List Event}

theorem run_of_gather_error
    (gather : staged.gather.run store = ⟨.error failure, after, gathering⟩) :
    staged.run.run store =
      ⟨.error failure, after,
        .runStarted staged.command :: .stageEntered staged.command .extracting :: gathering⟩ := by
  rw [run, Action.run_say_bind, Action.run_say_bind, Action.run_bind_of_error gather]
  rfl

theorem run_of_process_error
    (gather : staged.gather.run store = ⟨.ok input, gathered, gathering⟩)
    (process : (staged.process input).run gathered = ⟨.error failure, after, processing⟩) :
    staged.run.run store =
      ⟨.error failure, after,
        .runStarted staged.command :: .stageEntered staged.command .extracting :: (gathering ++
          .stageEntered staged.command .transforming :: processing)⟩ := by
  rw [run, Action.run_say_bind, Action.run_say_bind, Action.run_bind_of_ok gather,
    Action.run_say_bind, Action.run_bind_of_error process]
  rfl

theorem run_of_deliver_ok
    (gather : staged.gather.run store = ⟨.ok input, gathered, gathering⟩)
    (process : (staged.process input).run gathered = ⟨.ok product, processed, processing⟩)
    (deliver : (staged.deliver product).run processed = ⟨.ok output, after, delivering⟩) :
    staged.run.run store =
      ⟨.ok output, after,
        .runStarted staged.command :: .stageEntered staged.command .extracting :: (gathering ++
          .stageEntered staged.command .transforming :: (processing ++
            .stageEntered staged.command .loading :: (delivering ++
              [.runFinished staged.command output])))⟩ := by
  rw [run, Action.run_say_bind, Action.run_say_bind, Action.run_bind_of_ok gather,
    Action.run_say_bind, Action.run_bind_of_ok process, Action.run_say_bind,
    Action.run_bind_of_ok deliver, Action.run_say_bind]
  rfl

end StagedRun

/-- The milestones of a run on files in memory tell how it ended. -/
structure Outcome.ShowsEnd (command : Command) (before : MemoryStore)
    (outcome : Outcome MemoryStore String) : Prop where
  milestones : outcome.events.filter Event.isMilestone = command.milestones outcome.result
  /-- Only what succeeds comes to the last stage. -/
  loading : .stageEntered command .loading ∈ outcome.events ↔ ∃ output, outcome.result = .ok output
  finished : ∀ output, .runFinished command output ∈ outcome.events ↔ outcome.result = .ok output
  last : ∀ output, outcome.result = .ok output →
    outcome.events.getLast? = some (.runFinished command output)
  /-- Nothing is written before the last stage. -/
  unwritten : .stageEntered command .loading ∉ outcome.events → outcome.store = before
  written : ∀ output, outcome.result = .ok output →
    ∃ data, outcome.store = before.insert output data

namespace Outcome.ShowsEnd

variable {command : Command} {before : MemoryStore} {events : List Event}

theorem mem_events_iff {result : Except Failure String}
    (milestones : events.filter Event.isMilestone = command.milestones result) {event : Event}
    (isMilestone : event.isMilestone = true) :
    event ∈ events ↔ event ∈ command.milestones result := by
  rw [← milestones, List.mem_filter, isMilestone]
  simp

theorem of_error {failure : Failure}
    (milestones : events.filter Event.isMilestone = command.milestones (.error failure)) :
    ShowsEnd command before ⟨.error failure, before, events⟩ where
  milestones := milestones
  loading := (mem_events_iff milestones rfl).trans command.loading_mem_milestones_iff
  finished _ := (mem_events_iff milestones rfl).trans command.runFinished_mem_milestones_iff
  last := nofun
  unwritten _ := rfl
  written := nofun

theorem of_ok {output : String} {data : ByteArray}
    (milestones : events.filter Event.isMilestone = command.milestones (.ok output))
    (last : events.getLast? = some (.runFinished command output)) :
    ShowsEnd command before ⟨.ok output, before.insert output data, events⟩ := by
  have loading := (mem_events_iff milestones rfl).trans command.loading_mem_milestones_iff
  refine ⟨milestones, loading, fun _ ↦ ?finished, ?last, fun absent ↦ ?unwritten, ?written⟩
  case finished =>
    exact (mem_events_iff milestones rfl).trans command.runFinished_mem_milestones_iff
  case last =>
    rintro _ ⟨⟩
    exact last
  case unwritten => exact absurd (loading.2 ⟨output, rfl⟩) absent
  case written =>
    rintro _ ⟨⟩
    exact ⟨data, rfl⟩

end Outcome.ShowsEnd

end Rulebook
