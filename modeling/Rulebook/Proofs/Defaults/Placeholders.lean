import Mathlib.Tactic.Common
import Rulebook.Defaults.Substitution

/-!
# What a text asks of its environment

Substitution looks up the names of a text's placeholders and nothing else. An entry of an environment
is found under the name of its variable, and also under longer names that run past its equals sign.
A text without placeholders of either kind does not depend on the variable: `apply_ofEntries_eq`.
-/

namespace Rulebook.Substitution

variable {environment other : Environment} {text name rest after : List Char} {c : Char}

/-! ## Placeholders one by one -/

theorem eq_of_placeholder? (h : placeholder? text = some (name, after)) :
    text = name ++ '\x7d' :: after := by
  rw [placeholder?] at h
  split at h
  case h_1 brace rest dropped =>
    split_ifs at h
    obtain ⟨rfl, rfl⟩ := Prod.mk.inj (Option.some.inj h)
    obtain rfl : brace = '\x7d' := by
      have stopped := List.head?_dropWhile_not (· != '\x7d') text
      rw [dropped] at stopped
      simpa using stopped
    rw [← dropped, List.takeWhile_append_dropWhile]
  case h_2 => cases h

theorem substitute_placeholder (h : placeholder? rest = some (name, after)) :
    substitute environment ('$' :: '\x7b' :: rest) =
      replacement environment name ++ substitute environment after := by
  rw [substitute]
  split
  case h_1 name' after' found =>
    obtain ⟨rfl, rfl⟩ := Prod.mk.inj (Option.some.inj (found.symm.trans h))
    rfl
  case h_2 none => cases none.symm.trans h

theorem substitute_bare (h : placeholder? rest = none) :
    substitute environment ('$' :: '\x7b' :: rest) =
      '$' :: substitute environment ('\x7b' :: rest) := by
  rw [substitute]
  split
  case h_1 found => cases found.symm.trans h
  case h_2 => rfl

theorem names_placeholder (h : placeholder? rest = some (name, after)) :
    names ('$' :: '\x7b' :: rest) = String.ofList name :: names after := by
  rw [names]
  split
  case h_1 name' after' found =>
    obtain ⟨rfl, rfl⟩ := Prod.mk.inj (Option.some.inj (found.symm.trans h))
    rfl
  case h_2 none => cases none.symm.trans h

theorem names_bare (h : placeholder? rest = none) :
    names ('$' :: '\x7b' :: rest) = names ('\x7b' :: rest) := by
  rw [names]
  split
  case h_1 found => cases found.symm.trans h
  case h_2 => rfl

/-- A text is read from left to right: a placeholder, the opening of none, or any other character. -/
theorem placeholder_induction {motive : List Char → Prop} (nil : motive [])
    (placeholder : ∀ rest name after, placeholder? rest = some (name, after) → motive after →
      motive ('$' :: '\x7b' :: rest))
    (bare : ∀ rest, placeholder? rest = none → motive ('\x7b' :: rest) →
      motive ('$' :: '\x7b' :: rest))
    (plain : ∀ c rest, (∀ tail, c = '$' → rest = '\x7b' :: tail → False) → motive rest →
      motive (c :: rest)) (text : List Char) : motive text :=
  names.induct motive nil placeholder bare plain text

/-! ## Names -/

/-- Environments that agree on the names of all placeholders make the same of a text. -/
theorem substitute_congr (agree : ∀ name ∈ names text, environment name = other name) :
    substitute environment text = substitute other text := by
  induction text using placeholder_induction with
  | nil => rw [substitute, substitute]
  | placeholder rest name after found ih =>
    rw [names_placeholder found] at agree
    obtain ⟨here, later⟩ := List.forall_mem_cons.1 agree
    rw [substitute_placeholder found, substitute_placeholder found, ih later, replacement,
      replacement, here]
  | bare rest none ih =>
    rw [names_bare none] at agree
    rw [substitute_bare none, substitute_bare none, ih agree]
  | plain c rest other ih =>
    rw [names.eq_3 c rest other] at agree
    rw [substitute.eq_3 _ c rest other, substitute.eq_3 _ c rest other, ih agree]

/-- The placeholder of a name that is asked for stands in the text as it is written. -/
theorem written_isInfix {name : String} (mem : name ∈ names text) :
    written name.toList <:+: text := by
  induction text using placeholder_induction with
  | nil =>
    rw [names] at mem
    cases mem
  | placeholder rest name' after found ih =>
    have isText := eq_of_placeholder? found
    rw [names_placeholder found] at mem
    rcases List.mem_cons.1 mem with rfl | mem
    · refine ⟨[], after, ?_⟩
      rw [isText, String.toList_ofList, written]
      simp
    · refine (ih mem).trans (List.IsSuffix.isInfix ⟨'$' :: '\x7b' :: (name' ++ ['\x7d']), ?_⟩)
      rw [isText]
      simp
  | bare rest none ih =>
    rw [names_bare none] at mem
    exact (ih mem).trans (List.suffix_cons _ _).isInfix
  | plain c rest other ih =>
    rw [names.eq_3 c rest other] at mem
    exact (ih mem).trans (List.suffix_cons _ _).isInfix

/-! ## Entries -/

/-- How an entry begins that sets a variable. -/
def start (key : String) : List Char :=
  key.toList ++ ['=']

def IsEntryOf (key entry : String) : Prop :=
  start key <+: entry.toList

instance (key entry : String) : Decidable (IsEntryOf key entry) :=
  inferInstanceAs (Decidable (start key <+: entry.toList))

/-- The two environments have the same entries, apart from those of one variable. -/
def DifferOnlyIn (key : String) (entries others : List String) : Prop :=
  (entries.filter fun entry ↦ ¬IsEntryOf key entry) =
    others.filter fun entry ↦ ¬IsEntryOf key entry

instance (key : String) (entries others : List String) :
    Decidable (DifferOnlyIn key entries others) :=
  inferInstanceAs (Decidable (_ = _))

/-- The text has a placeholder for the variable, or one whose name goes on after the variable's
equals sign. -/
def Mentions (text : List Char) (key : String) : Prop :=
  written key.toList <:+: text ∨ ['$', '\x7b'] ++ start key <:+: text

instance (text : List Char) (key : String) : Decidable (Mentions text key) :=
  inferInstanceAs (Decidable (_ ∨ _))

variable {key entry : String} {entries others : List String}

/-- An entry is found under two names only if one of them runs past the equals sign of the other. -/
theorem eq_or_start_prefix {name : String} (noEquals : '=' ∉ key.toList)
    (ofKey : IsEntryOf key entry) (ofName : IsEntryOf name entry) :
    name = key ∨ start key <+: name.toList := by
  rcases List.prefix_or_prefix_of_prefix ofKey ofName with shorter | longer
  · rcases List.prefix_concat_iff.1 shorter with same | past
    · have chars : key.toList = name.toList := List.append_cancel_right same
      exact .inl (String.toList_inj.1 chars.symm)
    · exact .inr past
  · rcases List.prefix_concat_iff.1 longer with same | within
    · have chars : name.toList = key.toList := List.append_cancel_right same
      exact .inl (String.toList_inj.1 chars)
    · have inside : '=' ∈ key.toList := within.mem (List.mem_append_right _ (List.mem_singleton_self _))
      exact absurd inside noEquals

theorem ofEntries_cons {name : String} (entry : String) (entries : List String) :
    Environment.ofEntries (entry :: entries) name =
      if IsEntryOf name entry then some (String.ofList (entry.toList.drop (name.length + 1)))
      else Environment.ofEntries entries name := by
  have begins : (name.toList ++ ['=']).isPrefixOf entry.toList = true ↔ IsEntryOf name entry :=
    List.isPrefixOf_iff_prefix
  rw [Environment.ofEntries, List.findSome?_cons]
  by_cases ofName : IsEntryOf name entry
  · rw [if_pos ofName, if_pos (begins.2 ofName)]
  · rw [if_neg ofName, if_neg (mt begins.1 ofName)]
    rfl

/-- A name that no entry of a variable is found under is looked up among the other entries. -/
theorem ofEntries_filter {name : String}
    (unrelated : ∀ entry, IsEntryOf key entry → ¬IsEntryOf name entry) (entries : List String) :
    Environment.ofEntries (entries.filter fun entry ↦ ¬IsEntryOf key entry) name =
      Environment.ofEntries entries name := by
  induction entries with
  | nil => rfl
  | cons entry entries ih =>
    rw [ofEntries_cons]
    by_cases ofKey : IsEntryOf key entry
    · rw [List.filter_cons_of_neg (by simpa using ofKey), if_neg (unrelated entry ofKey), ih]
    · rw [List.filter_cons_of_pos (by simpa using ofKey), ofEntries_cons, ih]

/-- A text that does not mention a variable is the same in environments that differ in it only. -/
theorem apply_ofEntries_eq {content : String} (noEquals : '=' ∉ key.toList)
    (differ : DifferOnlyIn key entries others) (unmentioned : ¬Mentions content.toList key) :
    apply (.ofEntries entries) content = apply (.ofEntries others) content := by
  have agree : ∀ name ∈ names content.toList,
      Environment.ofEntries entries name = Environment.ofEntries others name := by
    intro name mem
    have isInfix := written_isInfix mem
    have unrelated : ∀ entry, IsEntryOf key entry → ¬IsEntryOf name entry := by
      intro entry ofKey ofName
      rcases eq_or_start_prefix noEquals ofKey ofName with rfl | ⟨more, past⟩
      · exact unmentioned (.inl isInfix)
      · refine unmentioned (.inr (List.IsInfix.trans ⟨[], more ++ ['\x7d'], ?_⟩ isInfix))
        rw [written, ← past]
        simp
    rw [← ofEntries_filter unrelated entries, differ, ofEntries_filter unrelated others]
  rw [apply, apply, substitute_congr agree]

end Rulebook.Substitution
