import Rulebook.Program
import Rulebook.Proofs.Run.Yields

/-!
# One write, at the end

Whatever a command does, it first makes up its mind about the text of its output and then writes
that text.  Everything that can go wrong before leaves the store alone, so all there is to say about
the store afterwards is what one write does to it.
-/

namespace Rulebook

namespace Action

variable {σ : Type} [Store σ] {action : Action String} {store : σ} {path : String}
  {product : Except Failure String}

/-- The action makes `product` and then writes it to `path`, and tells where. If there is no
product, it fails and leaves the store as it is. -/
structure Publishes (action : Action String) (store : σ) (path : String)
    (product : Except Failure String) : Prop where
  failed : ∀ failure, product = .error failure → action.Yields store (.error failure) store
  written : ∀ text answer after, product = .ok text →
    Store.write store path (Text.Utf8.encode text) = (answer, after) →
      action.Yields store ((answer.mapError (.access path)).map fun _ ↦ path) after

namespace Publishes

theorem of_error {failure : Failure} (h : action.Yields store (.error failure) store) :
    action.Publishes store path (.error failure) where
  failed other isError := by
    obtain rfl : failure = other := Except.error.inj isError
    exact h
  written _ _ _ isOk := nomatch isOk

theorem of_ok {text : String}
    (h : ∀ answer after, Store.write store path (Text.Utf8.encode text) = (answer, after) →
      action.Yields store ((answer.mapError (.access path)).map fun _ ↦ path) after) :
    action.Publishes store path (.ok text) where
  failed _ isError := nomatch isError
  written other answer after isOk := by
    obtain rfl : text = other := Except.ok.inj isOk
    exact h answer after

theorem say {event : Event} (h : action.Publishes store path product) :
    (Action.say event >>= fun _ ↦ action).Publishes store path product where
  failed failure isError := .say (h.failed failure isError)
  written text answer after isOk write := .say (h.written text answer after isOk write)

/-- A check beforehand leaves less to be made. -/
theorem check {condition : Except Failure Unit} (h : action.Publishes store path product) :
    (ofExcept condition >>= fun _ ↦ action).Publishes store path
      (condition >>= fun _ ↦ product) := by
  cases condition with
  | error reason => exact of_error (yields_ofExcept (.error reason) store).bind_error
  | ok done =>
    have passed : (ofExcept (.ok done)).Yields store (.ok done) store :=
      yields_ofExcept (.ok done) store
    exact ⟨fun failure isError ↦ passed.bind (h.failed failure isError),
      fun text answer after isOk write ↦ passed.bind (h.written text answer after isOk write)⟩

theorem store_of_ok {text : String} (h : action.Publishes store path (.ok text)) :
    (action.run store).store = (Store.write store path (Text.Utf8.encode text)).2 := by
  cases write : Store.write store path (Text.Utf8.encode text) with
  | mk answer after => exact (h.written text answer after rfl write).store

/-- There is only one way to publish a product. -/
theorem agree {other : Action String} (first : action.Publishes store path product)
    (second : other.Publishes store path product) :
    (action.run store).result = (other.run store).result ∧
      (action.run store).store = (other.run store).store := by
  cases product with
  | error failure =>
    have failed := first.failed failure rfl
    have failed' := second.failed failure rfl
    exact ⟨failed.result.trans failed'.result.symm, failed.store.trans failed'.store.symm⟩
  | ok text =>
    cases write : Store.write store path (Text.Utf8.encode text) with
    | mk answer after =>
      have written := first.written text answer after rfl write
      have written' := second.written text answer after rfl write
      exact ⟨written.result.trans written'.result.symm, written.store.trans written'.store.symm⟩

end Publishes

end Action

namespace ExpandSettings

variable {σ : Type} [Store σ]

/-- The text of the document that an expand run writes. -/
def product (settings : ExpandSettings) (store : σ) : Except Failure String :=
  (settings.resolve store).map fun lists ↦ lists.expand.render

theorem publishes (settings : ExpandSettings) (store : σ) :
    settings.staged.run.Publishes store settings.output (settings.product store) := by
  rw [product]
  cases resolved : settings.resolve store with
  | error failure => exact .of_error (yields_of_resolve_error resolved)
  | ok lists => exact .of_ok fun answer after write ↦ yields_of_resolve resolved write

end ExpandSettings

namespace FlattenSettings

variable {σ : Type} [Store σ]

/-- The text of the rule list that a flatten run writes. -/
def product (settings : FlattenSettings) (store : σ) : Except Failure String :=
  ((Store.read store settings.input).mapError (Failure.access settings.input) >>= flatten).map
    ruleList

theorem publishes (settings : FlattenSettings) (store : σ) :
    settings.staged.run.Publishes store settings.output (settings.product store) := by
  have gather : settings.staged.gather.Yields store _ store := settings.yields_gather store
  rw [product]
  cases read : (Store.read store settings.input).mapError (Failure.access settings.input) with
  | error failure =>
    rw [read] at gather
    exact .of_error (StagedRun.yields_of_gather_error gather)
  | ok content =>
    rw [read] at gather
    have process : (settings.staged.process content).Yields store _ store :=
      settings.yields_process content store
    change settings.staged.run.Publishes store settings.output ((flatten content).map ruleList)
    cases flattened : flatten content with
    | error failure =>
      rw [flattened] at process
      exact .of_error (StagedRun.yields_of_process_error gather process)
    | ok rules =>
      rw [flattened] at process
      exact .of_ok fun answer after write ↦
        StagedRun.yields_of_deliver gather process (settings.yields_deliver rules write)

end FlattenSettings

/-! ## Whole commands -/

namespace Invocation

variable {σ : Type} [Store σ]

/-- The path that a command writes to. -/
def output (invocation : Invocation) (file : Option DefaultsFile) : String :=
  match invocation with
  | expand arguments => (arguments.settings file).output
  | flatten arguments => (arguments.settings file).output

/-- The text that a command writes, once its settings have been checked. -/
def product (invocation : Invocation) (file : Option DefaultsFile) (store : σ) :
    Except Failure String :=
  match invocation with
  | expand arguments =>
    (arguments.settings file).validate >>= fun _ ↦ (arguments.settings file).product store
  | flatten arguments =>
    (arguments.settings file).validate >>= fun _ ↦ (arguments.settings file).product store

/-- A defaults file is checked as a whole before its settings are used. -/
def checkedProduct (invocation : Invocation) (file : Option DefaultsFile) (store : σ) :
    Except Failure String :=
  (match file with
    | some file => file.validate
    | none => .ok ()) >>= fun _ ↦ invocation.product file store

theorem publishes_perform (invocation : Invocation) (file : Option DefaultsFile) (store : σ) :
    (invocation.perform file).Publishes store (invocation.output file)
      (invocation.product file store) := by
  cases invocation with
  | expand arguments => exact .say (.check (ExpandSettings.publishes _ store))
  | flatten arguments => exact .say (.check (FlattenSettings.publishes _ store))

theorem publishes_body (invocation : Invocation) (file : Option DefaultsFile) (store : σ) :
    (invocation.body file).Publishes store (invocation.output file)
      (invocation.checkedProduct file store) := by
  have performed := invocation.publishes_perform file store
  cases file with
  | none => exact performed.say
  | some file => exact performed.check.say

end Invocation

end Rulebook
