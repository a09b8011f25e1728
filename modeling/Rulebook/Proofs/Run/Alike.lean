import Rulebook.Proofs.Values.ListFile
import Rulebook.StagedRun

/-!
# Actions on stores that agree

Two stores can keep the same files and still word their faults differently. `Action.Alike` relates
actions that do the same for as long as they are given answers that differ in such wording only, and
`Action.Alike.run` says that they have the same outcome on stores that agree. Each run is alike to
itself, since it passes a fault on and never looks into it.
-/

namespace Rulebook

/-! ## Faults, failures and results -/

/-- Two faults of one kind: both say that a file is missing or both that it is not UTF-8. -/
structure AccessFault.Alike (fault other : AccessFault) : Prop where
  kind : fault.kind = other.kind
  expected : fault.kind = .notFound ∨ fault.kind = .invalidData

/-- Two failures that differ at most in how a failed access to one path is worded. -/
inductive Failure.Alike : Failure → Failure → Prop where
  | access (path : String) {fault other : AccessFault} (h : fault.Alike other) :
    Alike (.access path fault) (.access path other)
  | same {failure : Failure} (h : failure.category ≠ .access) : Alike failure failure

/-- Two results with the same value or with related errors. -/
inductive SameUpTo {ε α : Type} (related : ε → ε → Prop) : Except ε α → Except ε α → Prop where
  | ok (value : α) : SameUpTo related (.ok value) (.ok value)
  | error {fault other : ε} (h : related fault other) :
    SameUpTo related (.error fault) (.error other)

theorem SameUpTo.mapError {ε φ α : Type} {related : ε → ε → Prop} {results : φ → φ → Prop}
    {answer other : Except ε α} {f : ε → φ} (h : SameUpTo related answer other)
    (lift : ∀ fault fault', related fault fault' → results (f fault) (f fault')) :
    SameUpTo results (answer.mapError f) (other.mapError f) := by
  cases h with
  | ok value => exact .ok value
  | error h => exact .error (lift _ _ h)

theorem SameUpTo.refl_of_category {α : Type} {result : Except Failure α}
    (h : ∀ failure, result = .error failure → failure.category ≠ .access) :
    SameUpTo Failure.Alike result result := by
  cases result with
  | ok value => exact .ok value
  | error failure => exact .error (.same (h failure rfl))

/-! ## Alike actions -/

/-- Actions that take the same steps and go on alike after answers that are alike. -/
inductive Action.Alike {α : Type} : Action α → Action α → Prop where
  | done (value : α) : Alike (done value) (done value)
  | fail {failure other : Failure} (h : failure.Alike other) : Alike (fail failure) (fail other)
  | report (event : Event) {rest other : Action α} (h : Alike rest other) :
    Alike (report event rest) (report event other)
  | readFile (path : String) {rest other : Except AccessFault String → Action α}
    (h : ∀ answer answer', SameUpTo AccessFault.Alike answer answer' →
      Alike (rest answer) (other answer')) :
    Alike (readFile path rest) (readFile path other)
  | writeFile (path : String) (data : ByteArray) {rest other : Except AccessFault Unit → Action α}
    (h : ∀ answer answer', SameUpTo AccessFault.Alike answer answer' →
      Alike (rest answer) (other answer')) :
    Alike (writeFile path data rest) (writeFile path data other)

namespace Action

/-- The paths that an action reads or writes on a store, in order. -/
def paths {σ α : Type} [Store σ] : Action α → σ → List String
  | done _, _ => []
  | fail _, _ => []
  | report _ rest, store => rest.paths store
  | readFile path rest, store => path :: (rest (Store.read store path)).paths store
  | writeFile path data rest, store =>
    path :: (rest (Store.write store path data).1).paths (Store.write store path data).2

namespace Alike

variable {α β : Type}

theorem bind {action other : Action α} {next next' : α → Action β} (h : action.Alike other)
    (nexts : ∀ value, (next value).Alike (next' value)) :
    (action.bind next).Alike (other.bind next') := by
  induction h with
  | done value => exact nexts value
  | fail h => exact .fail h
  | report event _ ih => exact .report event ih
  | readFile path _ ih => exact .readFile path ih
  | writeFile path data _ ih => exact .writeFile path data ih

theorem ofExcept {result other : Except Failure α} (h : SameUpTo Failure.Alike result other) :
    (ofExcept result).Alike (ofExcept other) := by
  cases h with
  | ok value => exact .done value
  | error h => exact .fail h

theorem say (event : Event) : (say event).Alike (say event) :=
  .report event (.done ())

theorem sayAll (events : List Event) : (sayAll events).Alike (sayAll events) := by
  induction events with
  | nil => exact .done ()
  | cons event events ih => exact .report event ih

theorem sayIf {condition : Prop} [Decidable condition] {event : Event} {rest : Unit → Action β}
    (h : (rest ()).Alike (rest ())) :
    (if condition then Action.say event >>= rest else rest ()).Alike
      (if condition then Action.say event >>= rest else rest ()) := by
  split
  · exact .bind (.say event) fun _ ↦ h
  · exact h

theorem read (path : String) : (read path).Alike (read path) := by
  apply Alike.readFile path
  intro answer answer' same
  exact ofExcept (same.mapError fun _ _ ↦ .access path)

theorem write (path : String) (data : ByteArray) : (write path data).Alike (write path data) := by
  apply Alike.writeFile path data
  intro answer answer' same
  exact ofExcept (same.mapError fun _ _ ↦ .access path)

end Alike

end Action

/-! ## Outcomes -/

/-- Related stores give alike answers on the allowed paths, and writing there keeps them related. -/
structure Store.Agree {σ τ : Type} [Store σ] [Store τ] (allowed : String → Prop)
    (related : σ → τ → Prop) : Prop where
  read : ∀ store store' path, related store store' → allowed path →
    SameUpTo AccessFault.Alike (Store.read store path) (Store.read store' path)
  answer : ∀ store store' path data, related store store' → allowed path →
    SameUpTo AccessFault.Alike (Store.write store path data).1 (Store.write store' path data).1
  written : ∀ store store' path data, related store store' → allowed path →
    related (Store.write store path data).2 (Store.write store' path data).2

/-- The same result up to the wording of faults, the same events, and stores that are related. -/
structure Outcome.Alike {σ τ α : Type} (related : σ → τ → Prop) (outcome : Outcome σ α)
    (other : Outcome τ α) : Prop where
  result : SameUpTo Failure.Alike outcome.result other.result
  events : outcome.events = other.events
  store : related outcome.store other.store

/-- Alike actions on related stores have alike outcomes, if they only use paths that are allowed. -/
theorem Action.Alike.run {σ τ α : Type} [Store σ] [Store τ] {allowed : String → Prop}
    {related : σ → τ → Prop} {action other : Action α} (h : action.Alike other)
    (agree : Store.Agree allowed related) {store : σ} {store' : τ} (start : related store store')
    (within : ∀ path ∈ action.paths store, allowed path) :
    (action.run store).Alike related (other.run store') := by
  induction h generalizing store store' with
  | done value => exact ⟨.ok value, rfl, start⟩
  | fail h => exact ⟨.error h, rfl, start⟩
  | report event _ ih =>
    have later := ih start within
    exact ⟨later.result, congrArg ([event] ++ ·) later.events, later.store⟩
  | readFile path _ ih =>
    obtain ⟨here, within⟩ := List.forall_mem_cons.1 within
    exact ih _ _ (agree.read _ _ path start here) start within
  | writeFile path data _ ih =>
    obtain ⟨here, within⟩ := List.forall_mem_cons.1 within
    exact ih _ _ (agree.answer _ _ path data start here) (agree.written _ _ path data start here)
      within

/-! ## The runs -/

theorem StagedRun.alike_run {α β : Type} (staged : StagedRun α β)
    (gather : staged.gather.Alike staged.gather)
    (process : ∀ input, (staged.process input).Alike (staged.process input))
    (deliver : ∀ result, (staged.deliver result).Alike (staged.deliver result)) :
    staged.run.Alike staged.run := by
  refine .bind (.say _) fun _ ↦ .bind (.say _) fun _ ↦ .bind gather fun input ↦ ?_
  refine .bind (.say _) fun _ ↦ .bind (process input) fun result ↦ ?_
  refine .bind (.say _) fun _ ↦ .bind (deliver result) fun output ↦ ?_
  exact .bind (.say _) fun _ ↦ .done output

namespace ValueList

theorem category_of_ofFile {path content : String} {failure : Failure}
    (h : ofFile path content = .error failure) : failure.category = .input := by
  rw [ofFile_eq, ofLines_eq_error_iff] at h
  obtain ⟨before, line, after, -, -, -, rfl⟩ := h
  rfl

theorem alike_gather (argument : String) : (gather argument).Alike (gather argument) := by
  rw [gather]
  split
  · refine .bind (.say _) fun _ ↦ .bind (.read argument) fun content ↦ ?_
    refine .bind (.ofExcept (.refl_of_category fun failure failed ↦ ?_)) fun values ↦ ?_
    · rw [category_of_ofFile failed]
      exact Category.noConfusion
    · exact .bind (.say _) fun _ ↦ .done values
  · exact .done _

end ValueList

theorem ExpandSettings.alike_run (settings : ExpandSettings) :
    settings.staged.run.Alike settings.staged.run := by
  refine settings.staged.alike_run ?gather (fun lists ↦ ?process) (fun document ↦ ?deliver)
  case gather =>
    refine .bind (ValueList.alike_gather _) fun sources ↦ ?_
    refine .bind (ValueList.alike_gather _) fun destinations ↦ ?_
    exact .bind (ValueList.alike_gather _) fun ports ↦ .bind (.say _) fun _ ↦ .done _
  case process => exact .bind (.sayAll _) fun _ ↦ .done _
  case deliver => exact .bind (.say _) fun _ ↦ .bind (.write _ _) fun _ ↦ .done _

theorem Report.category_of_result {report : Report} {failure : Failure}
    (h : report.result = .error failure) : failure.category = .validation := by
  rw [result] at h
  split at h
  · obtain rfl := Except.error.inj h
    rfl
  · cases h

theorem FlattenSettings.alike_run (settings : FlattenSettings) :
    settings.staged.run.Alike settings.staged.run := by
  refine settings.staged.alike_run ?gather (fun content ↦ ?process) (fun rules ↦ ?deliver)
  case gather => exact .bind (.say _) fun _ ↦ .read _
  case process =>
    refine .bind (.sayAll _) fun _ ↦ .sayIf <| .sayIf ?_
    refine .bind (.ofExcept (.refl_of_category fun failure rejected ↦ ?_)) fun rules ↦ ?_
    · rw [Report.category_of_result rejected]
      exact Category.noConfusion
    · exact .bind (.say _) fun _ ↦ .done rules
  case deliver => exact .bind (.write _ _) fun _ ↦ .done _

end Rulebook
