import Mathlib.Data.List.Basic
import Rulebook.Proofs.Store.Growth
import Rulebook.Proofs.Store.Parent
import Rulebook.Proofs.Text.Lines

/-!
# Plain file names and canonical paths

A plain name is one that can stand for a file of a directory and for nothing else. Seen from a base
directory, its path takes the steps of the base and then one more, and no limit of paths is in its
way as long as the base leaves room for it. A canonical path goes down by one name after another, so
two of them that lead to the same place are the same: `IsCanonical.eq_of_locate`.
-/

namespace Rulebook

/-- A name that a directory can give to a file. -/
structure IsPlainName (name : String) : Prop where
  nonempty : name.toList ≠ []
  slashFree : '/' ∉ name.toList
  notHere : name.toList ≠ ['.']
  notUp : name.toList ≠ ['.', '.']
  nulFree : '\x00' ∉ name.toList
  short : name.utf8ByteSize ≤ Tree.maxNameWidth

theorem isPlainName_iff {name : String} : IsPlainName name ↔
    name.toList ≠ [] ∧ '/' ∉ name.toList ∧ name.toList ≠ ['.'] ∧ name.toList ≠ ['.', '.'] ∧
      '\x00' ∉ name.toList ∧ name.utf8ByteSize ≤ Tree.maxNameWidth :=
  ⟨fun h ↦ ⟨h.nonempty, h.slashFree, h.notHere, h.notUp, h.nulFree, h.short⟩,
    fun ⟨nonempty, slashFree, notHere, notUp, nulFree, short⟩ ↦
      ⟨nonempty, slashFree, notHere, notUp, nulFree, short⟩⟩

instance (name : String) : Decidable (IsPlainName name) :=
  decidable_of_iff' _ isPlainName_iff

variable {base path name : String}

/-! ## Steps -/

namespace Step

variable {piece : List Char} {step : Step}

theorem eq_of_ofPiece? (h : ofPiece? piece = some step) :
    step = .here ∧ piece = ['.'] ∨ step = .up ∧ piece = ['.', '.'] ∨
      step = .name (String.ofList piece) := by
  rw [ofPiece?] at h
  split_ifs at h with isEmpty isHere isUp
  · exact .inl ⟨(Option.some.inj h).symm, isHere⟩
  · exact .inr (.inl ⟨(Option.some.inj h).symm, isUp⟩)
  · exact .inr (.inr (Option.some.inj h).symm)

theorem eq_of_ofPiece?_name (h : ofPiece? piece = some (.name name)) : name.toList = piece := by
  rcases eq_of_ofPiece? h with ⟨isHere, -⟩ | ⟨isUp, -⟩ | isName
  · cases isHere
  · cases isUp
  · cases isName
    exact String.toList_ofList

theorem exists_ofPiece? (nonempty : piece ≠ []) : ∃ step, ofPiece? piece = some step := by
  rw [ofPiece?, if_neg (by simpa using nonempty)]
  split_ifs
  · exact ⟨_, rfl⟩
  · exact ⟨_, rfl⟩
  · exact ⟨_, rfl⟩

/-- A text without slashes is one step. -/
theorem exists_eq_singleton (nonempty : piece ≠ []) (slashFree : '/' ∉ piece) :
    ∃ step, ofPiece? piece = some step ∧ (piece.splitOn '/').filterMap ofPiece? = [step] := by
  obtain ⟨step, isStep⟩ := exists_ofPiece? nonempty
  refine ⟨step, isStep, ?_⟩
  rw [List.splitOn_eq_singleton slashFree, List.filterMap_cons_some isStep, List.filterMap_nil]

end Step

/-! ## Joined paths -/

namespace Path

theorem steps_of_toList {before after : List Char} (h : path.toList = before ++ '/' :: after) :
    (ofText path).steps =
      (before.splitOn '/').filterMap Step.ofPiece? ++
        (after.splitOn '/').filterMap Step.ofPiece? := by
  rw [ofText, h, List.splitOn_append_cons_self, List.filterMap_append]

/-- From a base, a relative path takes the steps of the base first. -/
theorem steps_join (relative : path.toList.head? ≠ some '/') (base : String) :
    (ofText (join base path)).steps = (ofText base).steps ++ (ofText path).steps := by
  rw [join, beq_eq_false_iff_ne.2 relative, Bool.false_or]
  split_ifs with isEmpty slashed
  · obtain rfl : base = "" := by simpa using isEmpty
    rfl
  · obtain ⟨before, isBase⟩ := List.getLast?_eq_some_iff.1 (beq_iff_eq.1 slashed)
    have joined : (base ++ path).toList = before ++ '/' :: path.toList := by
      rw [String.toList_append, isBase, List.append_assoc, List.singleton_append]
    rw [steps_of_toList joined, steps_of_toList isBase]
    exact congrArg (· ++ _) (List.append_nil _).symm
  · have joined : (base ++ "/" ++ path).toList = base.toList ++ '/' :: path.toList := by
      rw [String.toList_append, String.toList_append, List.append_assoc]
      rfl
    exact steps_of_toList joined

/-- What a path ends in does not depend on where it starts. -/
theorem isSlashed_join (nonempty : path.toList ≠ []) (base : String) :
    (ofText (join base path)).isSlashed = (ofText path).isSlashed := by
  have append (before : List Char) : (before ++ path.toList).getLast? = path.toList.getLast? :=
    List.getLast?_append_of_ne_nil before nonempty
  rw [ofText, ofText, join]
  split_ifs
  · rfl
  · rw [String.toList_append, append]
  · rw [String.toList_append, append]

theorem join_append (nonempty : path.toList ≠ []) (base more : String) :
    join base (path ++ more) = join base path ++ more := by
  have first : (path ++ more).toList.head? = path.toList.head? := by
    rw [String.toList_append, List.head?_append_of_ne_nil _ nonempty]
  rw [join, join, first]
  split_ifs
  · rfl
  · exact String.append_assoc.symm
  · exact String.append_assoc.symm

/-- Text without slashes, added to a path, changes the last step and no other. -/
theorem exists_steps_append (nonempty : path.toList ≠ [])
    (notSlashed : (ofText path).isSlashed = false) :
    ∃ above last, last ≠ [] ∧ ∀ more : String, '/' ∉ more.toList →
      ∃ step, Step.ofPiece? (last ++ more.toList) = some step ∧
        (ofText (path ++ more)).steps = above ++ [step] := by
  by_cases slash : '/' ∈ path.toList
  · obtain ⟨after, before, reversed, slashFree⟩ :=
      List.eq_append_cons_of_mem (List.mem_reverse.2 slash)
    have isPath : path.toList = before.reverse ++ '/' :: after.reverse := by
      rw [← List.reverse_reverse path.toList, reversed]
      simp
    have lastNonempty : after.reverse ≠ [] := by
      intro empty
      rw [ofText, isPath, empty, List.getLast?_concat] at notSlashed
      cases notSlashed
    refine ⟨(before.reverse.splitOn '/').filterMap Step.ofPiece?, _, lastNonempty, ?_⟩
    intro more moreFree
    obtain ⟨step, isStep, steps⟩ := Step.exists_eq_singleton
      (List.append_ne_nil_of_left_ne_nil lastNonempty more.toList) (by simp [slashFree, moreFree])
    refine ⟨step, isStep, ?_⟩
    rw [← steps]
    apply steps_of_toList
    rw [String.toList_append, isPath, List.append_assoc, List.cons_append]
  · refine ⟨[], path.toList, nonempty, fun more moreFree ↦ ?_⟩
    obtain ⟨step, isStep, steps⟩ := Step.exists_eq_singleton
      (List.append_ne_nil_of_left_ne_nil nonempty more.toList) (by simp [slash, moreFree])
    refine ⟨step, isStep, ?_⟩
    rw [ofText, String.toList_append, steps]
    rfl

end Path

/-! ## The path of a plain name -/

namespace IsPlainName

theorem ofPiece? (plain : IsPlainName name) :
    Step.ofPiece? name.toList = some (.name name) := by
  rw [Step.ofPiece?, if_neg (by simpa using plain.nonempty), if_neg plain.notHere,
    if_neg plain.notUp, String.ofList_toList]

theorem ofText (plain : IsPlainName name) : Path.ofText name = ⟨[.name name], false⟩ := by
  have slashFree : (name.toList.getLast? == some '/') = false := by
    rw [beq_eq_false_iff_ne]
    exact fun last ↦ plain.slashFree (List.mem_of_getLast? last)
  rw [Path.ofText, List.splitOn_eq_singleton plain.slashFree,
    List.filterMap_cons_some plain.ofPiece?, List.filterMap_nil, slashFree]

/-- From a base, a plain name is one more step. -/
theorem ofText_join (plain : IsPlainName name) (base : String) :
    Path.ofText (Path.join base name) = ⟨(Path.ofText base).steps ++ [.name name], false⟩ := by
  have relative : name.toList.head? ≠ some '/' :=
    fun first ↦ plain.slashFree (List.mem_of_head? first)
  have steps := Path.steps_join relative base
  have slashFree := Path.isSlashed_join plain.nonempty base
  rw [plain.ofText] at steps slashFree
  cases joined : Path.ofText (Path.join base name)
  rw [joined] at steps slashFree
  rw [Path.mk.injEq]
  exact ⟨steps, slashFree⟩

theorem parent_join (plain : IsPlainName name) (base : String) :
    (Path.ofText (Path.join base name)).parent = (Path.ofText base).moves := by
  rw [Path.parent, Path.moves, plain.ofText_join, List.filter_append, Path.moves]
  exact List.dropLast_concat

end IsPlainName

/-! ## Canonical paths -/

/-- The names that stand between the slashes of a path. -/
def Path.names (path : String) : List String :=
  (path.toList.splitOn '/').map String.ofList

theorem Path.names_inj {path other : String} : names path = names other ↔ path = other := by
  refine ⟨fun same ↦ ?_, congrArg names⟩
  have pieces : path.toList.splitOn '/' = other.toList.splitOn '/' :=
    List.map_injective_iff.2 (fun _ _ ↦ String.ofList_inj.1) same
  have chars := congrArg (List.intercalate ['/']) pieces
  rw [List.intercalate_splitOn, List.intercalate_splitOn] at chars
  exact String.toList_inj.1 chars

/-- A relative path is canonical if it enters one directory after another and takes no step in
vain. -/
def IsCanonical (path : String) : Prop :=
  ∀ piece ∈ path.toList.splitOn '/', piece ≠ [] ∧ piece ≠ ['.'] ∧ piece ≠ ['.', '.']

instance (path : String) : Decidable (IsCanonical path) :=
  inferInstanceAs (Decidable (∀ piece ∈ _, _))

namespace IsCanonical

theorem relative (h : IsCanonical path) : path.toList.head? ≠ some '/' := by
  intro first
  obtain ⟨rest, isPath⟩ := List.head?_eq_some_iff.1 first
  have empty : [] ∈ path.toList.splitOn '/' := by
    rw [isPath, List.splitOn_cons_eq_if_modifyHead, if_pos (beq_self_eq_true '/')]
    exact List.mem_cons_self
  exact (h [] empty).1 rfl

theorem steps (h : IsCanonical path) : (Path.ofText path).steps = (Path.names path).map .name := by
  have isName : ∀ piece ∈ path.toList.splitOn '/',
      Step.ofPiece? piece = some (.name (String.ofList piece)) := by
    intro piece mem
    obtain ⟨nonempty, notHere, notUp⟩ := h piece mem
    rw [Step.ofPiece?, if_neg (by simpa using nonempty), if_neg notHere, if_neg notUp]
  rw [Path.ofText, Path.names, List.map_map, ← List.filterMap_eq_map]
  exact List.filterMap_congr isName

/-- A canonical path leads from its base to the place that has its names. -/
theorem exists_of_locate (h : IsCanonical path) {tree : Tree} {place : Location}
    (located : tree.locate (Path.join base path) = .ok place) :
    ∃ home, tree.walk [] (Path.ofText base).steps = .ok home ∧ place = home ++ Path.names path := by
  have walked := Tree.walk_of_locate located
  rw [Path.steps_join h.relative, h.steps] at walked
  obtain ⟨home, reached, onwards⟩ := Tree.exists_of_walk_append walked
  exact ⟨home, reached, Tree.eq_of_walk_names onwards⟩

/-- Two canonical paths to the same place are the same path. -/
theorem eq_of_locate {other : String} (h : IsCanonical path) (h' : IsCanonical other) {tree : Tree}
    {place : Location} (located : tree.locate (Path.join base path) = .ok place)
    (located' : tree.locate (Path.join base other) = .ok place) : path = other := by
  obtain ⟨home, reached, rfl⟩ := h.exists_of_locate located
  obtain ⟨home', reached', same⟩ := h'.exists_of_locate located'
  obtain rfl : home = home' := Except.ok.inj (reached.symm.trans reached')
  exact Path.names_inj.1 (List.append_cancel_left same)

end IsCanonical

/-! ## The limits of paths -/

namespace Path

/-- The text of a joined path is that of the path, after that of the base, if there is one. -/
theorem join_cases (base path : String) :
    join base path = path ∨ join base path = base ++ path ∨
      join base path = base ++ "/" ++ path := by
  rw [join]
  split_ifs
  · exact .inl rfl
  · exact .inr (.inl rfl)
  · exact .inr (.inr rfl)

end Path

theorem IsPlainName.pathFault?_join (plain : IsPlainName name) (nulFree : '\x00' ∉ base.toList)
    (room : base.utf8ByteSize + 1 + Tree.maxNameWidth < Tree.maxPathWidth) :
    Tree.pathFault? (Path.join base name) = none := by
  have nonempty := plain.nonempty
  have clear := plain.nulFree
  have short := plain.short
  have slash : "/".utf8ByteSize = 1 := rfl
  have noNul : containsNul (Path.join base name) = false := by
    rw [containsNul]
    rcases Path.join_cases base name with joined | joined | joined <;> simp [*]
  have narrow : ¬Tree.maxPathWidth ≤ (Path.join base name).utf8ByteSize := by
    rcases Path.join_cases base name with joined | joined | joined
    · rw [joined]
      omega
    · rw [joined, String.utf8ByteSize_append]
      omega
    · rw [joined, String.utf8ByteSize_append, String.utf8ByteSize_append]
      omega
  have isText : (Path.join base name).isEmpty = false := by
    rcases Path.join_cases base name with joined | joined | joined <;> simp_all
  rw [Tree.pathFault?, noNul, isText, if_neg narrow]
  rfl

end Rulebook
