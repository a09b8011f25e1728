import Rulebook.Event

/-! # Actions and stores

An action is a plan that reads and writes named files and reports events. The same action runs on
any store, and `Action.run` says what comes of it: a result, the store afterwards, and the events in
order.
-/

namespace Rulebook

inductive Action (α : Type) : Type where
  | done (value : α)
  | fail (failure : Failure)
  | report (event : Event) (next : Action α)
  | readFile (path : String) (next : Except AccessFault String → Action α)
  | writeFile (path : String) (data : ByteArray) (next : Except AccessFault Unit → Action α)

/-- A place that keeps files. A failed write may still have changed it. -/
class Store (σ : Type) where
  read : σ → String → Except AccessFault String
  write : σ → String → ByteArray → Except AccessFault Unit × σ

/-- What comes of an action. -/
structure Outcome (σ α : Type) where
  result : Except Failure α
  store : σ
  events : List Event

namespace Outcome

/-- The same outcome after some earlier events. -/
def after {σ α : Type} (events : List Event) (outcome : Outcome σ α) : Outcome σ α :=
  { outcome with events := events ++ outcome.events }

end Outcome

namespace Action

variable {α β : Type}

def bind (action : Action α) (next : α → Action β) : Action β :=
  match action with
  | done value => next value
  | fail failure => fail failure
  | report event rest => report event (rest.bind next)
  | readFile path rest => readFile path fun answer => (rest answer).bind next
  | writeFile path data rest => writeFile path data fun answer => (rest answer).bind next

instance : Monad Action where
  pure := done
  bind := bind

def ofExcept : Except Failure α → Action α
  | .ok value => done value
  | .error failure => fail failure

def say (event : Event) : Action Unit :=
  report event (done ())

def sayAll (events : List Event) : Action Unit :=
  events.foldr report (done ())

/-- Reads a file, or fails naming it. -/
def read (path : String) : Action String :=
  readFile path fun answer => ofExcept (answer.mapError (Failure.access path))

/-- Writes a file, or fails naming it. -/
def write (path : String) (data : ByteArray) : Action Unit :=
  writeFile path data fun answer => ofExcept (answer.mapError (Failure.access path))

variable {σ : Type} [Store σ]

/-- Carries the action out on a store. -/
def run : Action α → σ → Outcome σ α
  | done value, store => ⟨.ok value, store, []⟩
  | fail failure, store => ⟨.error failure, store, []⟩
  | report event rest, store => (rest.run store).after [event]
  | readFile path rest, store => (rest (Store.read store path)).run store
  | writeFile path data rest, store =>
    (rest (Store.write store path data).1).run (Store.write store path data).2

@[simp] theorem pure_eq_done (value : α) : (pure value : Action α) = done value := rfl

@[simp] theorem bind_eq_bind (action : Action α) (next : α → Action β) :
    (action >>= next) = action.bind next := rfl

@[simp] theorem run_done (value : α) (store : σ) : (done value).run store = ⟨.ok value, store, []⟩ :=
  rfl

@[simp] theorem run_fail (failure : Failure) (store : σ) :
    (fail failure : Action α).run store = ⟨.error failure, store, []⟩ := rfl

/-- A sequence runs its first part and then, if that succeeded, its second on the store left. -/
theorem run_bind (action : Action α) (next : α → Action β) (store : σ) :
    (action.bind next).run store =
      match action.run store with
      | ⟨.ok value, between, events⟩ => ((next value).run between).after events
      | ⟨.error failure, between, events⟩ => ⟨.error failure, between, events⟩ := by
  induction action generalizing store with
  | done value => simp [bind, Outcome.after]
  | fail failure => simp [bind]
  | report event rest ih =>
    simp only [bind, run, ih]
    rcases h : rest.run store with ⟨result, between, events⟩
    cases result <;> simp [Outcome.after]
  | readFile path rest ih => simpa [bind, run] using ih _ store
  | writeFile path data rest ih => simpa [bind, run] using ih _ _

@[simp] theorem run_ofExcept (result : Except Failure α) (store : σ) :
    (ofExcept result).run store = ⟨result, store, []⟩ := by
  cases result <;> rfl

@[simp] theorem run_read (path : String) (store : σ) :
    (read path).run store = ⟨(Store.read store path).mapError (.access path), store, []⟩ := by
  simp [read, run]

@[simp] theorem run_write (path : String) (data : ByteArray) (store : σ) :
    (write path data).run store =
      ⟨(Store.write store path data).1.mapError (.access path), (Store.write store path data).2,
        []⟩ := by
  simp [write, run]

@[simp] theorem run_say (event : Event) (store : σ) : (say event).run store = ⟨.ok (), store, [event]⟩ :=
  rfl

@[simp] theorem run_sayAll (events : List Event) (store : σ) :
    (sayAll events).run store = ⟨.ok (), store, events⟩ := by
  induction events with
  | nil => rfl
  | cons event events ih =>
    have step : sayAll (event :: events) = report event (sayAll events) := rfl
    rw [step, run, ih]
    rfl

end Action

end Rulebook
