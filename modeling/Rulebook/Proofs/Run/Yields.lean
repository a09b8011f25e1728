import Rulebook.StagedRun
import Rulebook.Store.Memory

/-!
# What a run comes to

`action.Yields store result after` forgets the events of a run and keeps its result and the store it
leaves.  There is one lemma for each way to put actions together, a run follows from its three
stages, and the stages of the two commands are told for every kind of store.
-/

namespace Rulebook

namespace Action

variable {σ α β : Type} [Store σ] {store between after : σ}

section Sequences

variable {action : Action α} {next : α → Action β} {events : List Event}

theorem run_bind_of_ok {value : α} (first : action.run store = ⟨.ok value, between, events⟩) :
    (action >>= next).run store = ((next value).run between).after events := by
  rw [bind_eq_bind, run_bind, first]

theorem run_bind_of_error {failure : Failure}
    (first : action.run store = ⟨.error failure, after, events⟩) :
    (action >>= next).run store = ⟨.error failure, after, events⟩ := by
  rw [bind_eq_bind, run_bind, first]

end Sequences

/-- Carried out on `store`, the action ends with `result` and leaves `after`. -/
structure Yields (action : Action α) (store : σ) (result : Except Failure α) (after : σ) :
    Prop where
  result : (action.run store).result = result
  store : (action.run store).store = after

theorem yields_pure (value : α) (store : σ) :
    (pure value : Action α).Yields store (.ok value) store :=
  ⟨rfl, rfl⟩

theorem yields_say (event : Event) (store : σ) : (say event).Yields store (.ok ()) store :=
  ⟨rfl, rfl⟩

theorem yields_sayAll (events : List Event) (store : σ) :
    (sayAll events).Yields store (.ok ()) store := by
  constructor <;> simp

theorem yields_ofExcept (result : Except Failure α) (store : σ) :
    (ofExcept result).Yields store result store := by
  constructor <;> simp

theorem yields_read (path : String) (store : σ) :
    (read path).Yields store ((Store.read store path).mapError (.access path)) store := by
  constructor <;> simp

theorem yields_write {path : String} {data : ByteArray} {answer : Except AccessFault Unit}
    (h : Store.write store path data = (answer, after)) :
    (write path data).Yields store (answer.mapError (.access path)) after := by
  constructor <;> simp [h]

namespace Yields

variable {action : Action α} {next : α → Action β} {value : α} {result : Except Failure β}

/-- With its events, what an action yields is all its outcome. -/
theorem run_eq {result : Except Failure α} (h : action.Yields store result after) :
    action.run store = ⟨result, after, (action.run store).events⟩ := by
  rw [← h.result, ← h.store]

/-- A sequence goes on where its first part left off. -/
theorem bind (first : action.Yields store (.ok value) between)
    (second : (next value).Yields between result after) :
    (action >>= next).Yields store result after := by
  constructor
  · rw [run_bind_of_ok first.run_eq]
    exact second.result
  · rw [run_bind_of_ok first.run_eq]
    exact second.store

theorem bind_error {failure : Failure} (first : action.Yields store (.error failure) after) :
    (action >>= next).Yields store (.error failure) after := by
  constructor <;> rw [run_bind_of_error first.run_eq]

/-- Actions that leave the store as it is compose as their results do. -/
theorem bind_same {first : Except Failure α} {second : α → Except Failure β}
    (h : action.Yields store first store)
    (rest : ∀ value, (next value).Yields store (second value) store) :
    (action >>= next).Yields store (first >>= second) store := by
  cases first with
  | error failure => exact h.bind_error
  | ok value => exact h.bind (rest value)

/-- A result that is known already is passed on. -/
theorem ofExcept_bind {result : Except Failure α} {next : α → Action α}
    (rest : ∀ value, (next value).Yields store (.ok value) store) :
    (ofExcept result >>= next).Yields store result store := by
  cases result with
  | error failure => exact (yields_ofExcept (.error failure) store).bind_error
  | ok value => exact (yields_ofExcept (.ok value) store).bind (rest value)

/-- What is said makes no difference. -/
theorem say {event : Event} {rest : Unit → Action β} (h : (rest ()).Yields store result after) :
    (Action.say event >>= rest).Yields store result after :=
  (yields_say event store).bind h

theorem sayIf {condition : Prop} [Decidable condition] {event : Event} {rest : Unit → Action β}
    (h : (rest ()).Yields store result after) :
    (if condition then Action.say event >>= rest else rest ()).Yields store result after := by
  split
  · exact h.say
  · exact h

end Yields

/-- Both runs end by writing a file and telling where. -/
theorem yields_deliver {path : String} {data : ByteArray} {answer : Except AccessFault Unit}
    (h : Store.write store path data = (answer, after)) :
    (write path data >>= fun _ ↦ pure path).Yields store
      ((answer.mapError (.access path)).map fun _ ↦ path) after := by
  have written := yields_write h
  cases answer with
  | error fault => exact written.bind_error
  | ok done => exact written.bind (yields_pure path after)

end Action

/-! ## Three stages -/

namespace StagedRun

variable {σ α β : Type} [Store σ] {staged : StagedRun α β} {store gathered processed after : σ}
  {input : α} {product : β} {failure : Failure}

theorem yields_of_gather_error (gather : staged.gather.Yields store (.error failure) after) :
    staged.run.Yields store (.error failure) after :=
  .say <| .say gather.bind_error

theorem yields_of_process_error (gather : staged.gather.Yields store (.ok input) gathered)
    (process : (staged.process input).Yields gathered (.error failure) after) :
    staged.run.Yields store (.error failure) after :=
  .say <| .say <| gather.bind <| .say process.bind_error

/-- A run whose first two stages succeed ends as its last stage does. -/
theorem yields_of_deliver {result : Except Failure String}
    (gather : staged.gather.Yields store (.ok input) gathered)
    (process : (staged.process input).Yields gathered (.ok product) processed)
    (deliver : (staged.deliver product).Yields processed result after) :
    staged.run.Yields store result after := by
  refine .say <| .say <| gather.bind <| .say <| process.bind <| .say ?_
  cases result with
  | error failure => exact deliver.bind_error
  | ok output => exact deliver.bind <| .say (Action.yields_pure output after)

end StagedRun

/-! ## The stages of flattening -/

namespace FlattenSettings

variable {σ : Type} [Store σ]

theorem yields_gather (settings : FlattenSettings) (store : σ) :
    settings.gather.Yields store
      ((Store.read store settings.input).mapError (.access settings.input)) store :=
  .say (Action.yields_read settings.input store)

theorem yields_process (settings : FlattenSettings) (content : String) (store : σ) :
    (settings.process content).Yields store (flatten content) store := by
  refine (Action.yields_sayAll _ store).bind ?_
  refine .sayIf <| .sayIf ?_
  exact .ofExcept_bind fun rules ↦ .say (Action.yields_pure rules store)

theorem yields_deliver (settings : FlattenSettings) (rules : List Rule) {store after : σ}
    {answer : Except AccessFault Unit}
    (write : Store.write store settings.output (Text.Utf8.encode (ruleList rules)) =
      (answer, after)) :
    (settings.deliver rules).Yields store
      ((answer.mapError (.access settings.output)).map fun _ ↦ settings.output) after :=
  Action.yields_deliver write

end FlattenSettings

/-! ## The stages of expanding -/

namespace ValueList

variable {σ : Type} [Store σ]

/-- The values of an argument among the files of a store. -/
def resolve (store : σ) (argument : String) : Except Failure (List String) :=
  if isListFile argument then
    (Store.read store argument).mapError (.access argument) >>= ofFile argument
  else .ok (splitInline argument)

/-- Resolving an argument leaves the store as it is. -/
theorem yields_gather (argument : String) (store : σ) :
    (gather argument).Yields store (resolve store argument) store := by
  rw [gather, resolve]
  split
  · refine .say <| (Action.yields_read argument store).bind_same fun content ↦ ?_
    exact .ofExcept_bind fun values ↦ .say (Action.yields_pure values store)
  · exact Action.yields_pure (splitInline argument) store

end ValueList

namespace ExpandSettings

variable {σ : Type} [Store σ]

/-- The values of the three arguments. The first one that has none decides how it fails. -/
def resolve (settings : ExpandSettings) (store : σ) : Except Failure ValueLists := do
  let sources ← ValueList.resolve store settings.source
  let destinations ← ValueList.resolve store settings.destination
  let ports ← ValueList.resolve store settings.ports
  return ⟨sources, destinations, ports⟩

theorem resolve_eq_ok_iff {settings : ExpandSettings} {store : σ} {lists : ValueLists} :
    settings.resolve store = .ok lists ↔
      ValueList.resolve store settings.source = .ok lists.sources ∧
        ValueList.resolve store settings.destination = .ok lists.destinations ∧
          ValueList.resolve store settings.ports = .ok lists.ports := by
  obtain ⟨sources, destinations, ports⟩ := lists
  rw [resolve]
  cases ValueList.resolve store settings.source with
  | error => simp [bind, Except.bind]
  | ok =>
    cases ValueList.resolve store settings.destination with
    | error => simp [bind, Except.bind]
    | ok =>
      cases ValueList.resolve store settings.ports <;> simp [bind, Except.bind, pure, Except.pure]

theorem yields_gather (settings : ExpandSettings) (store : σ) :
    settings.gather.Yields store (settings.resolve store) store := by
  refine (ValueList.yields_gather settings.source store).bind_same fun sources ↦ ?_
  refine (ValueList.yields_gather settings.destination store).bind_same fun destinations ↦ ?_
  refine (ValueList.yields_gather settings.ports store).bind_same fun ports ↦ ?_
  exact .say (Action.yields_pure (ValueLists.mk sources destinations ports) store)

theorem yields_process (lists : ValueLists) (store : σ) :
    (process lists).Yields store (.ok lists.expand) store :=
  (Action.yields_sayAll lists.warnings store).bind (Action.yields_pure lists.expand store)

theorem yields_deliver (settings : ExpandSettings) (document : Document) {store after : σ}
    {answer : Except AccessFault Unit}
    (write : Store.write store settings.output (Text.Utf8.encode document.render) =
      (answer, after)) :
    (settings.deliver document).Yields store
      ((answer.mapError (.access settings.output)).map fun _ ↦ settings.output) after :=
  .say (Action.yields_deliver write)

/-- An expand run fails with the failure of its arguments, before it writes anything. -/
theorem yields_of_resolve_error {settings : ExpandSettings} {store : σ} {failure : Failure}
    (h : settings.resolve store = .error failure) :
    settings.staged.run.Yields store (.error failure) store :=
  StagedRun.yields_of_gather_error (h ▸ settings.yields_gather store)

/-- An expand run writes the document of its arguments. -/
theorem yields_of_resolve {settings : ExpandSettings} {store after : σ} {lists : ValueLists}
    {answer : Except AccessFault Unit} (h : settings.resolve store = .ok lists)
    (write : Store.write store settings.output (Text.Utf8.encode lists.expand.render) =
      (answer, after)) :
    settings.staged.run.Yields store
      ((answer.mapError (.access settings.output)).map fun _ ↦ settings.output) after :=
  StagedRun.yields_of_deliver (h ▸ settings.yields_gather store) (yields_process lists store)
    (settings.yields_deliver lists.expand write)

end ExpandSettings

end Rulebook
