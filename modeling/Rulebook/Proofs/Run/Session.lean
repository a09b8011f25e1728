import Mathlib.Data.List.Forall2
import Rulebook.Proofs.Store.Mirror

/-!
# Sessions

A session puts requests to a store, each to what the one before has left. With plain names, no
session can tell a memory from a directory: `Session.run_alike_of_isFresh`.
-/

namespace Rulebook

/-- To write or read one file, to resolve a value argument, or to carry out one of the two runs. -/
inductive Request where
  | write (path : String) (data : ByteArray)
  | read (path : String)
  | resolve (argument : String)
  | expand (settings : ExpandSettings)
  | flatten (settings : FlattenSettings)

inductive Reply where
  | written
  | content (text : String)
  | values (values : List String)
  | output (path : String)
deriving DecidableEq, Repr

namespace Request

def action : Request → Action Reply
  | write path data => do
    .write path data
    return .written
  | read path => return .content (← .read path)
  | resolve argument => return .values (← ValueList.gather argument)
  | expand settings => return .output (← settings.staged.run)
  | flatten settings => return .output (← settings.staged.run)

theorem alike_action (request : Request) : request.action.Alike request.action := by
  cases request with
  | write path data => exact .bind (.write path data) fun _ ↦ .done _
  | read path => exact .bind (.read path) fun _ ↦ .done _
  | resolve argument => exact .bind (ValueList.alike_gather argument) fun _ ↦ .done _
  | expand settings => exact .bind settings.alike_run fun _ ↦ .done _
  | flatten settings => exact .bind settings.alike_run fun _ ↦ .done _

end Request

/-- What comes back from a request, and what is logged meanwhile. -/
structure Answer where
  result : Except Failure Reply
  events : List Event

/-- The same answer up to the wording of faults. -/
structure Answer.Alike (answer other : Answer) : Prop where
  result : SameUpTo Failure.Alike answer.result other.result
  events : answer.events = other.events

namespace Session

section Run

variable {σ τ : Type} [Store σ] [Store τ]

/-- The answers to the requests, in order, and the store after the last one. -/
def run : List Request → σ → List Answer × σ
  | [], store => ([], store)
  | request :: later, store =>
    let outcome := request.action.run store
    let (answers, last) := run later outcome.store
    (⟨outcome.result, outcome.events⟩ :: answers, last)

/-- The paths that are read or written while the requests are answered. -/
def paths : List Request → σ → List String
  | [], _ => []
  | request :: later, store =>
    request.action.paths store ++ paths later (request.action.run store).store

/-- On stores that agree, a session has alike answers and keeps the stores related. -/
theorem run_alike {allowed : String → Prop} {related : σ → τ → Prop}
    (agree : Store.Agree allowed related) (requests : List Request) {store : σ} {store' : τ}
    (start : related store store') (within : ∀ path ∈ paths requests store, allowed path) :
    List.Forall₂ Answer.Alike (run requests store).1 (run requests store').1 ∧
      related (run requests store).2 (run requests store').2 := by
  induction requests generalizing store store' with
  | nil => exact ⟨.nil, start⟩
  | cons request later ih =>
    obtain ⟨now, afterwards⟩ := List.forall_mem_append.1 within
    have outcome := request.alike_action.run agree start now
    obtain ⟨answers, last⟩ := ih outcome.store afterwards
    exact ⟨.cons ⟨outcome.result, outcome.events⟩ answers, last⟩

end Run

/-- A session that only uses plain names cannot tell an empty memory from a fresh directory: all its
answers are alike, and in the end both hold the same files. -/
theorem run_alike_of_isFresh (requests : List Request) {disk : Disk} {home : Location}
    (fresh : disk.IsFresh home)
    (plain : ∀ path ∈ paths requests (∅ : MemoryStore), IsPlainName path) :
    let inMemory := run requests (∅ : MemoryStore)
    let onDisk := run requests disk
    List.Forall₂ Answer.Alike inMemory.1 onDisk.1 ∧
      ∀ below data, onDisk.2.tree.file? (home ++ below) = some data ↔
        ∃ name, below = [name] ∧ inMemory.2.file? name = some data := by
  intro inMemory onDisk
  obtain ⟨answers, mirrors⟩ := run_alike (agree_mirrors home) requests fresh.mirrors plain
  exact ⟨answers, mirrors.file?_eq_some_iff⟩

/-- Two runs that feed one another, after a list file was written, and two reads that fail. -/
def sample : List Request :=
  [.write "s.config" (Text.Utf8.encode "a\n"), .resolve "s.config",
    .expand ⟨"s.config", "d", "80", "doc"⟩, .flatten ⟨"doc", "rules"⟩, .read "absent",
    .write "raw" ⟨#[255]⟩, .read "raw"]

theorem paths_sample : paths sample (∅ : MemoryStore) =
    ["s.config", "s.config", "s.config", "doc", "doc", "rules", "absent", "raw", "raw"] :=
  rfl

theorem isFresh_empty : Disk.IsFresh ⟨".", ∅⟩ [] where
  hosts := ⟨rfl, rfl, by decide, by decide⟩
  empty below nonempty := by
    rw [List.nil_append, Tree.entry?, if_neg nonempty]
    rfl

theorem run_sample_alike :
    let inMemory := run sample (∅ : MemoryStore)
    let onDisk := run sample (⟨".", ∅⟩ : Disk)
    List.Forall₂ Answer.Alike inMemory.1 onDisk.1 ∧
      ∀ below data, onDisk.2.tree.file? ([] ++ below) = some data ↔
        ∃ name, below = [name] ∧ inMemory.2.file? name = some data :=
  run_alike_of_isFresh sample isFresh_empty (by rw [paths_sample]; decide)

end Session

end Rulebook
