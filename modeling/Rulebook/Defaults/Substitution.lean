/-! # Placeholders for environment variables

A placeholder is a dollar sign and a non-empty name in braces. Each one that names a set variable
gives way to its value. The text is read once from left to right, and values are not read again.
-/

namespace Rulebook.Substitution

/-- The values of the variables that are set. -/
abbrev Environment := String → Option String

/-- The environment of entries that each hold a name, an equals sign and a value. The first entry
that begins with a name and an equals sign gives its value, so a name may run past an equals sign. -/
def Environment.ofEntries (entries : List String) : Environment := fun name =>
  entries.findSome? fun entry =>
    if (name.toList ++ ['=']).isPrefixOf entry.toList then
      some (String.ofList (entry.toList.drop (name.length + 1)))
    else none

/-- The name of a placeholder and the text after it, read after its opening brace. -/
def placeholder? (text : List Char) : Option (List Char × List Char) :=
  let name := text.takeWhile (· != '\x7d')
  match text.dropWhile (· != '\x7d') with
  | _ :: rest => if name.isEmpty then none else some (name, rest)
  | [] => none

theorem length_placeholder {text name rest : List Char} (h : placeholder? text = some (name, rest)) :
    rest.length < text.length := by
  have suffix := (List.dropWhile_suffix (l := text) (· != '\x7d')).length_le
  simp only [placeholder?] at h
  split at h
  · next found =>
    split at h
    · cases h
    · cases h
      rw [found, List.length_cons] at suffix
      omega
  · cases h

/-- The placeholder of a name, as written. -/
def written (name : List Char) : List Char :=
  ['$', '\x7b'] ++ name ++ ['\x7d']

/-- What stands for a placeholder. An unset variable leaves it as it is. -/
def replacement (environment : Environment) (name : List Char) : List Char :=
  match environment (String.ofList name) with
  | some value => value.toList
  | none => written name

def substitute (environment : Environment) (text : List Char) : List Char :=
  match text with
  | [] => []
  | '$' :: '\x7b' :: rest =>
    match _found : placeholder? rest with
    | some (name, after) => replacement environment name ++ substitute environment after
    | none => '$' :: substitute environment ('\x7b' :: rest)
  | c :: rest => c :: substitute environment rest
termination_by text.length
decreasing_by
  · have := length_placeholder _found
    simp only [List.length_cons]
    omega
  all_goals simp

/-- The names that a text's placeholders ask for. -/
def names (text : List Char) : List String :=
  match text with
  | [] => []
  | '$' :: '\x7b' :: rest =>
    match _found : placeholder? rest with
    | some (name, after) => String.ofList name :: names after
    | none => names ('\x7b' :: rest)
  | _ :: rest => names rest
termination_by text.length
decreasing_by
  · have := length_placeholder _found
    simp only [List.length_cons]
    omega
  all_goals simp

def apply (environment : Environment) (content : String) : String :=
  String.ofList (substitute environment content.toList)

end Rulebook.Substitution
