import Rulebook.Proofs.Run.Expand

/-!
# What a run reads and what it writes

An action that reads and writes certain files only has the same effect on all memories that agree on
the files it reads.  `Action.effect` tells that effect apart from the memory: a result, the files
written, and the events.  `Action.run_eq_effect` puts the files written over those that were there,
and `Action.Within.effect_congr` is the frame lemma.
-/

namespace Rulebook

/-! ## Files over files -/

namespace MemoryStore

/-- The files of `written`, and those of `store` under all other names. -/
def overlay (store written : MemoryStore) : MemoryStore :=
  ⟨fun name ↦ (written.file? name).or (store.file? name)⟩

/-- The memory has no file outside of `paths`. -/
def ConfinedTo (store : MemoryStore) (paths : List String) : Prop :=
  ∀ path ∉ paths, store.file? path = none

/-- Both memories keep the same under `paths`. -/
def AgreesOn (paths : List String) (store other : MemoryStore) : Prop :=
  ∀ path ∈ paths, store.file? path = other.file? path

variable {store other written further : MemoryStore} {paths : List String} {path : String}
  {data : ByteArray}

@[simp] theorem file?_empty (name : String) : (∅ : MemoryStore).file? name = none := rfl

@[simp] theorem file?_overlay (store written : MemoryStore) (name : String) :
    (store.overlay written).file? name = (written.file? name).or (store.file? name) := rfl

@[simp] theorem overlay_empty (store : MemoryStore) : store.overlay ∅ = store := by
  ext name : 2
  simp

theorem overlay_overlay (store written further : MemoryStore) :
    (store.overlay written).overlay further = store.overlay (written.overlay further) := by
  ext name : 2
  simp [Option.or_assoc]

@[simp] theorem overlay_self (written : MemoryStore) : written.overlay written = written := by
  ext name : 2
  simp

theorem overlay_insert (store : MemoryStore) (path : String) (data : ByteArray) :
    store.overlay ((∅ : MemoryStore).insert path data) = store.insert path data := by
  ext name : 2
  by_cases here : name = path <;> simp [here]

/-- Files of different names may be put in in either order. -/
theorem overlay_right_comm {elsewhere : List String} (here : written.ConfinedTo paths)
    (there : further.ConfinedTo elsewhere) (disjoint : paths.Disjoint elsewhere)
    (store : MemoryStore) :
    (store.overlay written).overlay further = (store.overlay further).overlay written := by
  ext name : 2
  by_cases mem : name ∈ paths
  · have absent : further.file? name = none := there name (disjoint mem)
    simp [absent]
  · have absent : written.file? name = none := here name mem
    simp [absent]

theorem AgreesOn.refl (paths : List String) (store : MemoryStore) : AgreesOn paths store store :=
  fun _ _ ↦ rfl

theorem AgreesOn.insert (h : AgreesOn paths store other) (path : String) (data : ByteArray) :
    AgreesOn paths (store.insert path data) (other.insert path data) := by
  intro name mem
  rw [file?_insert, file?_insert, h name mem]

theorem AgreesOn.read_eq (h : AgreesOn paths store other) (mem : path ∈ paths) :
    store.read path = other.read path := by
  rw [read, read, h path mem]

/-- Writing elsewhere makes no difference. -/
theorem AgreesOn.overlay {elsewhere : List String} (h : AgreesOn paths store other)
    (there : written.ConfinedTo elsewhere) (disjoint : elsewhere.Disjoint paths) :
    AgreesOn paths store (other.overlay written) := by
  intro name mem
  have absent : written.file? name = none := there name fun isWritten ↦ disjoint isWritten mem
  rw [h name mem, file?_overlay, absent, Option.none_or]

end MemoryStore

/-! ## Effects -/

/-- What an action does, whatever else there is in the memory. -/
structure Effect (α : Type) where
  result : Except Failure α
  written : MemoryStore
  events : List Event

/-- The outcome of an effect on a memory. -/
def Effect.on {α : Type} (effect : Effect α) (store : MemoryStore) : Outcome MemoryStore α :=
  ⟨effect.result, store.overlay effect.written, effect.events⟩

namespace Action

variable {α β : Type}

/-- The effect that an action has on a memory. -/
def effect : Action α → MemoryStore → Effect α
  | done value, _ => ⟨.ok value, ∅, []⟩
  | fail failure, _ => ⟨.error failure, ∅, []⟩
  | report event rest, store =>
    let later := rest.effect store
    { later with events := event :: later.events }
  | readFile path rest, store => (rest (store.read path)).effect store
  | writeFile path data rest, store =>
    let later := (rest (.ok ())).effect (store.insert path data)
    { later with written := ((∅ : MemoryStore).insert path data).overlay later.written }

theorem run_eq_effect (action : Action α) (store : MemoryStore) :
    action.run store = (action.effect store).on store := by
  induction action generalizing store with
  | done value => simp [effect, Effect.on]
  | fail failure => simp [effect, Effect.on]
  | report event rest ih =>
    rw [run, ih]
    rfl
  | readFile path rest ih =>
    rw [run, ih]
    rfl
  | writeFile path data rest ih =>
    rw [run, ih]
    change Effect.on _ (store.insert path data) = _
    rw [Effect.on, ← MemoryStore.overlay_insert, MemoryStore.overlay_overlay]
    rfl

/-! ## Footprints -/

/-- The action reads no file outside of `reads` and writes none outside of `writes`, whatever it is
answered. -/
inductive Within (reads writes : List String) : Action α → Prop where
  | done (value : α) : Within reads writes (done value)
  | fail (failure : Failure) : Within reads writes (fail failure)
  | report (event : Event) {rest : Action α} (h : Within reads writes rest) :
    Within reads writes (report event rest)
  | readFile {path : String} {rest : Except AccessFault String → Action α} (mem : path ∈ reads)
    (h : ∀ answer, Within reads writes (rest answer)) : Within reads writes (readFile path rest)
  | writeFile {path : String} (data : ByteArray) {rest : Except AccessFault Unit → Action α}
    (mem : path ∈ writes) (h : ∀ answer, Within reads writes (rest answer)) :
    Within reads writes (writeFile path data rest)

namespace Within

variable {reads writes : List String} {action : Action α} {next : α → Action β} {path : String}

theorem bind (h : action.Within reads writes) (nexts : ∀ value, (next value).Within reads writes) :
    (action.bind next).Within reads writes := by
  induction h with
  | done value => exact nexts value
  | fail failure => exact .fail failure
  | report event _ ih => exact .report event ih
  | readFile mem _ ih => exact .readFile mem ih
  | writeFile data mem _ ih => exact .writeFile data mem ih

theorem ofExcept (result : Except Failure α) : (ofExcept result).Within reads writes := by
  cases result with
  | ok value => exact .done value
  | error failure => exact .fail failure

theorem say (event : Event) : (say event).Within reads writes :=
  .report event (.done ())

theorem sayAll (events : List Event) : (sayAll events).Within reads writes := by
  induction events with
  | nil => exact .done ()
  | cons event events ih => exact .report event ih

theorem sayIf {condition : Prop} [Decidable condition] {event : Event} {rest : Unit → Action β}
    (h : (rest ()).Within reads writes) :
    (if condition then Action.say event >>= rest else rest ()).Within reads writes := by
  split
  · exact .bind (.say event) fun _ ↦ h
  · exact h

theorem read (mem : path ∈ reads) : (read path).Within reads writes :=
  .readFile mem fun _ ↦ ofExcept _

theorem write (data : ByteArray) (mem : path ∈ writes) : (write path data).Within reads writes :=
  .writeFile data mem fun _ ↦ ofExcept _

/-- An action writes where it may only. -/
theorem confinedTo_written (h : action.Within reads writes) (store : MemoryStore) :
    (action.effect store).written.ConfinedTo writes := by
  induction h generalizing store with
  | done | fail => exact fun _ _ ↦ rfl
  | report event _ ih => exact ih store
  | readFile mem _ ih => exact ih _ store
  | @writeFile path data rest mem _ ih =>
    intro name outside
    have other : name ≠ path := fun same ↦ outside (same ▸ mem)
    have later := ih (.ok ()) (store.insert path data) name outside
    simp [effect, later, other]

/-- The effect of an action depends on the files it reads, and on no others. -/
theorem effect_congr (h : action.Within reads writes) {store other : MemoryStore}
    (agree : MemoryStore.AgreesOn reads store other) :
    action.effect store = action.effect other := by
  induction h generalizing store other with
  | done | fail => rfl
  | report event _ ih => rw [effect, effect, ih agree]
  | readFile mem _ ih => rw [effect, effect, agree.read_eq mem, ih _ agree]
  | writeFile data mem _ ih => rw [effect, effect, ih _ (agree.insert _ data)]

end Within

end Action

/-! ## The footprints of the two runs -/

variable {reads writes : List String}

theorem StagedRun.within_run {α β : Type} (staged : StagedRun α β)
    (gather : staged.gather.Within reads writes)
    (process : ∀ input, (staged.process input).Within reads writes)
    (deliver : ∀ result, (staged.deliver result).Within reads writes) :
    staged.run.Within reads writes := by
  refine .bind (.say _) fun _ ↦ .bind (.say _) fun _ ↦ .bind gather fun input ↦ ?_
  refine .bind (.say _) fun _ ↦ .bind (process input) fun result ↦ ?_
  refine .bind (.say _) fun _ ↦ .bind (deliver result) fun output ↦ ?_
  exact .bind (.say _) fun _ ↦ .done output

/-- An argument is only read if it names a list file. -/
theorem ValueList.within_gather {argument : String}
    (mem : isListFile argument = true → argument ∈ reads) :
    (gather argument).Within reads writes := by
  rw [gather]
  split
  case isTrue isFile =>
    refine .bind (.say _) fun _ ↦ .bind (.read (mem isFile)) fun content ↦ ?_
    exact .bind (.ofExcept _) fun values ↦ .bind (.say _) fun _ ↦ .done values
  case isFalse => exact .done _

theorem ExpandSettings.within_run (settings : ExpandSettings) :
    settings.staged.run.Within (settings.arguments.filter ValueList.isListFile)
      [settings.output] := by
  refine settings.staged.within_run ?gather (fun lists ↦ ?process) (fun document ↦ ?deliver)
  case gather =>
    have listed {argument : String} (mem : argument ∈ settings.arguments) :
        (ValueList.gather argument).Within (settings.arguments.filter ValueList.isListFile)
          [settings.output] :=
      ValueList.within_gather fun isFile ↦ List.mem_filter.2 ⟨mem, isFile⟩
    refine .bind (listed (by simp [arguments])) fun sources ↦ ?_
    refine .bind (listed (by simp [arguments])) fun destinations ↦ ?_
    exact .bind (listed (by simp [arguments])) fun ports ↦ .bind (.say _) fun _ ↦ .done _
  case process => exact .bind (.sayAll _) fun _ ↦ .done _
  case deliver =>
    exact .bind (.say _) fun _ ↦ .bind (.write _ (List.mem_singleton_self _)) fun _ ↦ .done _

theorem FlattenSettings.within_run (settings : FlattenSettings) :
    settings.staged.run.Within [settings.input] [settings.output] := by
  refine settings.staged.within_run ?gather (fun content ↦ ?process) (fun rules ↦ ?deliver)
  case gather => exact .bind (.say _) fun _ ↦ .read (List.mem_singleton_self _)
  case process =>
    refine .bind (.sayAll _) fun _ ↦ .sayIf <| .sayIf ?_
    exact .bind (.ofExcept _) fun rules ↦ .bind (.say _) fun _ ↦ .done rules
  case deliver => exact .bind (.write _ (List.mem_singleton_self _)) fun _ ↦ .done _

end Rulebook
