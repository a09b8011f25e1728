import Mathlib.Data.List.Pairwise
import Rulebook.Proofs.Run.Footprint
import Rulebook.Proofs.Run.Session

/-!
# Requests that may be put in any order

Requests are independent if none writes a file that another reads or writes.  Each of them is then
answered as if it came first, and what they leave behind is the memory with the files of all of them
put over it, which may be done in any order.  A request that does not read what it writes can be
repeated without a difference.
-/

namespace Rulebook

namespace Request

/-- The files that the answer to a request depends on: of the runs, the list files of an expand run
and the input of a flatten run. -/
def reads : Request → List String
  | write _ _ => []
  | read path => [path]
  | resolve argument => [argument].filter ValueList.isListFile
  | expand settings => settings.arguments.filter ValueList.isListFile
  | flatten settings => [settings.input]

/-- The files that a request may write: of the runs, their outputs. -/
def writes : Request → List String
  | write path _ => [path]
  | read _ | resolve _ => []
  | expand settings => [settings.output]
  | flatten settings => [settings.output]

theorem within_action (request : Request) :
    request.action.Within request.reads request.writes := by
  cases request with
  | write path data => exact .bind (.write data (List.mem_singleton_self _)) fun _ ↦ .done _
  | read path => exact .bind (.read (List.mem_singleton_self _)) fun _ ↦ .done _
  | resolve argument =>
    refine .bind (ValueList.within_gather fun isFile ↦ ?_) fun _ ↦ .done _
    exact List.mem_filter.2 ⟨List.mem_singleton_self _, isFile⟩
  | expand settings => exact .bind settings.within_run fun _ ↦ .done _
  | flatten settings => exact .bind settings.within_run fun _ ↦ .done _

variable {request other : Request} {store now : MemoryStore}

/-- Neither request writes what the other reads or writes. -/
structure Independent (request other : Request) : Prop where
  writes : request.writes.Disjoint other.writes
  unread : request.writes.Disjoint other.reads
  unwritten : request.reads.Disjoint other.writes

instance : Decidable (Independent request other) :=
  decidable_of_iff
    ((∀ path ∈ request.writes, path ∉ other.writes) ∧
      (∀ path ∈ request.writes, path ∉ other.reads) ∧
      ∀ path ∈ request.reads, path ∉ other.writes)
    ⟨fun ⟨writes, unread, unwritten⟩ ↦ ⟨fun path ↦ writes path, fun path ↦ unread path,
        fun path ↦ unwritten path⟩,
      fun h ↦ ⟨fun _ mem ↦ h.writes mem, fun _ mem ↦ h.unread mem, fun _ mem ↦ h.unwritten mem⟩⟩

instance : Std.Symm Independent where
  symm _ _ h :=
    ⟨List.disjoint_symm h.writes, List.disjoint_symm h.unwritten, List.disjoint_symm h.unread⟩

/-- The answer to a request that is put to the memory `store`. -/
def answer (request : Request) (store : MemoryStore) : Answer :=
  let outcome := request.action.run store
  ⟨outcome.result, outcome.events⟩

/-- The memory `now`, with the files that the request writes when it is put to `store`. -/
def leave (store now : MemoryStore) (request : Request) : MemoryStore :=
  now.overlay (request.action.effect store).written

/-- Only the files it reads count for a request. -/
theorem run_action (agree : MemoryStore.AgreesOn request.reads store now) :
    request.action.run now =
      ⟨(request.answer store).result, request.leave store now, (request.answer store).events⟩ := by
  have effect := request.within_action.effect_congr agree
  rw [answer, leave, Action.run_eq_effect, Action.run_eq_effect, effect]
  rfl

theorem leave_comm (h : request.Independent other) (store now : MemoryStore) :
    other.leave store (request.leave store now) = request.leave store (other.leave store now) :=
  MemoryStore.overlay_right_comm (request.within_action.confinedTo_written store)
    (other.within_action.confinedTo_written store) h.writes now

theorem leave_leave (request : Request) (store now : MemoryStore) :
    request.leave store (request.leave store now) = request.leave store now := by
  rw [leave, leave, MemoryStore.overlay_overlay, MemoryStore.overlay_self]

end Request

namespace Session

open Request

variable {requests others : List Request} {store now : MemoryStore}

/-- As long as what they read is as it was in `store`, independent requests are answered as if each
of them came first there. -/
theorem run_of_agree (independent : requests.Pairwise Independent)
    (agree : ∀ request ∈ requests, MemoryStore.AgreesOn request.reads store now) :
    run requests now = (requests.map (·.answer store), requests.foldl (leave store) now) := by
  induction requests generalizing now with
  | nil => rfl
  | cons request later ih =>
    obtain ⟨apart, independent⟩ := List.pairwise_cons.1 independent
    obtain ⟨here, agree⟩ := List.forall_mem_cons.1 agree
    -- What the first request writes, the others do not read.
    have kept : ∀ other ∈ later,
        MemoryStore.AgreesOn other.reads store (request.leave store now) := fun other mem ↦
      (agree other mem).overlay (request.within_action.confinedTo_written store)
        (apart other mem).unread
    rw [run, run_action here, ih independent kept]
    rfl

theorem foldl_leave_of_perm (independent : requests.Pairwise Independent)
    (perm : others.Perm requests) (store now : MemoryStore) :
    others.foldl (leave store) now = requests.foldl (leave store) now := by
  refine perm.foldl_eq' (fun request isHere other isThere now ↦ ?_) now
  by_cases same : request = other
  · rw [same]
  · have apart : request.Independent other :=
      independent.forall (perm.mem_iff.1 isHere) (perm.mem_iff.1 isThere) same
    exact leave_comm apart store now

/-- The second time, a request finds what it reads as it was, and writes what is there already. -/
theorem run_twice (unread : request.writes.Disjoint request.reads) :
    run [request, request] store =
      ([request.answer store, request.answer store], request.leave store store) := by
  have kept : MemoryStore.AgreesOn request.reads store (request.leave store store) :=
    (MemoryStore.AgreesOn.refl request.reads store).overlay
      (request.within_action.confinedTo_written store) unread
  rw [run, run_action (.refl _ store), run, run_action kept, leave_leave]
  rfl

/-- Independent requests have the same answers in every order, each the one that it would have if it
came first, and leave the same memory. A request that does not read what it writes has the same
answer when it is repeated at once, and the memory is then as it was after the first time. -/
theorem run_of_perm (store : MemoryStore) :
    (∀ requests others : List Request, requests.Pairwise Independent → others.Perm requests →
      (run others store).1 = others.map (·.answer store) ∧
        (run others store).2 = (run requests store).2) ∧
    ∀ request : Request, request.writes.Disjoint request.reads →
      (run [request, request] store).1 = [request.answer store, request.answer store] ∧
        (run [request, request] store).2 = (run [request] store).2 := by
  constructor
  · intro requests others independent perm
    have independent' := (perm.pairwise_iff (Std.Symm.symm _ _)).2 independent
    rw [run_of_agree independent fun _ _ ↦ .refl _ store,
      run_of_agree independent' fun _ _ ↦ .refl _ store]
    exact ⟨rfl, foldl_leave_of_perm independent perm store store⟩
  · intro request unread
    have once : run [request] store = ([request.answer store], request.leave store store) :=
      run_of_agree (List.pairwise_singleton _ _) fun _ _ ↦ .refl _ store
    rw [run_twice unread, once]
    exact ⟨rfl, rfl⟩

/-- An expand run and two flatten runs, the last of which finds no input. -/
def errands : List Request :=
  [.expand ⟨"s.config", "d", "80", "doc"⟩, .flatten ⟨"old", "rules"⟩, .flatten ⟨"absent", "none"⟩]

theorem run_of_perm_errands :
    let store := ((∅ : MemoryStore).withFile "s.config" "a\n").withFile "old" "[b]\ne,81\n"
    let again : Request := .expand ⟨"s.config", "d", "80", "doc"⟩
    ((run errands.reverse store).1 = errands.reverse.map (·.answer store) ∧
        (run errands.reverse store).2 = (run errands store).2 ∧
        errands.reverse.map (fun request ↦ (request.answer store).result) =
          [.error (.access "absent" .noSuchFile), .ok (.output "rules"), .ok (.output "doc")]) ∧
      (run [again, again] store).1 = [again.answer store, again.answer store] ∧
        (run [again, again] store).2 = (run [again] store).2 := by
  intro store again
  obtain ⟨reordered, repeated⟩ := run_of_perm store
  obtain ⟨answers, last⟩ := reordered errands errands.reverse (by decide) (List.reverse_perm _)
  have unread : ∀ path ∈ again.writes, path ∉ again.reads := by decide
  exact ⟨⟨answers, last, rfl⟩, repeated again fun path ↦ unread path⟩

end Session

end Rulebook
