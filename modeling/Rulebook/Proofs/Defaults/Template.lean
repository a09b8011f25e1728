import Rulebook.Proofs.Defaults.Placeholders

/-!
# Filling in a template

A template is a text that has been cut at its placeholders. Substitution fills in each placeholder
on its own and leaves all the rest as it stands, even where a value looks like a placeholder or
becomes part of one together with what stands next to it: `apply_template`.
-/

namespace Rulebook.Substitution

/-- A text in which no placeholder begins. -/
structure Literal where
  text : List Char
  plain : ¬['$', '\x7b'] <:+: text

/-- A name that can stand in a placeholder. -/
structure PlaceholderName where
  text : List Char
  nonempty : text ≠ []
  unclosed : '\x7d' ∉ text

inductive Template where
  | last (literal : Literal)
  /-- A placeholder behind a literal and before the rest of the template. -/
  | next (literal : Literal) (name : PlaceholderName) (rest : Template)

namespace Template

def text : Template → List Char
  | last literal => literal.text
  | next literal name rest =>
    literal.text ++ (['$', '\x7b'] ++ name.text ++ ['\x7d']) ++ rest.text

def names : Template → List String
  | last _ => []
  | next _ name rest => String.ofList name.text :: rest.names

/-- The text with each placeholder replaced by the value of its variable, if it is set. -/
def filled (environment : Environment) : Template → List Char
  | last literal => literal.text
  | next literal name rest =>
    literal.text ++
      ((environment (String.ofList name.text)).elim (['$', '\x7b'] ++ name.text ++ ['\x7d'])
        String.toList) ++
      rest.filled environment

end Template

variable {environment : Environment} {text rest : List Char}

/-! ## One piece at a time -/

/-- A literal is read character by character. What comes after it must not make a placeholder of a
dollar sign at its end. -/
theorem Literal.induction {motive : List Char → Prop} (literal : Literal)
    (noBrace : rest.head? ≠ some '\x7b') (nil : motive [])
    (cons : ∀ c after, (∀ tail, c = '$' → after ++ rest = '\x7b' :: tail → False) →
      motive after → motive (c :: after)) : motive literal.text := by
  suffices suffixes : ∀ before after, literal.text = before ++ after → motive after from
    suffixes [] literal.text rfl
  intro before after split
  induction after generalizing before with
  | nil => exact nil
  | cons c after ih =>
    refine cons c after ?_ (ih (before ++ [c]) (by simp [split]))
    rintro tail rfl brace
    cases after with
    | nil => exact noBrace (congrArg List.head? brace)
    | cons d after =>
      obtain ⟨rfl, -⟩ := List.cons.inj brace
      exact literal.plain ⟨before, after, by simp [split]⟩

theorem substitute_literal (literal : Literal) (noBrace : rest.head? ≠ some '\x7b') :
    substitute environment (literal.text ++ rest) = literal.text ++ substitute environment rest := by
  refine literal.induction
    (motive := fun read ↦ substitute environment (read ++ rest) = read ++ substitute environment rest)
    noBrace rfl fun c after opens ih ↦ ?_
  rw [List.cons_append, substitute.eq_3 environment c _ opens, ih, List.cons_append]

theorem names_literal (literal : Literal) (noBrace : rest.head? ≠ some '\x7b') :
    names (literal.text ++ rest) = names rest := by
  refine literal.induction (motive := fun read ↦ names (read ++ rest) = names rest) noBrace rfl
    fun c after opens ih ↦ ?_
  rw [List.cons_append, names.eq_3 c _ opens, ih]

/-- A name ends at the first closing brace. -/
theorem placeholder?_append (name : PlaceholderName) (rest : List Char) :
    placeholder? (name.text ++ '\x7d' :: rest) = some (name.text, rest) := by
  have inName : ∀ c ∈ name.text, (c != '\x7d') = true := by
    intro c mem
    rw [bne_iff_ne]
    rintro rfl
    exact name.unclosed mem
  have taken : (name.text ++ '\x7d' :: rest).takeWhile (· != '\x7d') = name.text := by
    rw [List.takeWhile_append_of_pos inName, List.takeWhile_cons_of_neg (by decide),
      List.append_nil]
  have dropped : (name.text ++ '\x7d' :: rest).dropWhile (· != '\x7d') = '\x7d' :: rest := by
    rw [List.dropWhile_append_of_pos inName, List.dropWhile_cons_of_neg (by decide)]
  rw [placeholder?, taken, dropped]
  exact if_neg (by simpa using name.nonempty)

/-! ## Whole templates -/

namespace Template

theorem text_next (literal : Literal) (name : PlaceholderName) (rest : Template) :
    (next literal name rest).text =
      literal.text ++ '$' :: '\x7b' :: (name.text ++ '\x7d' :: rest.text) := by
  simp [text]

/-- Substitution goes through a template once, from left to right. -/
theorem substitute_text (environment : Environment) (template : Template) :
    substitute environment template.text = template.filled environment := by
  induction template with
  | last literal =>
    have alone : substitute environment (literal.text ++ []) = literal.text ++ _ :=
      substitute_literal literal nofun
    rwa [List.append_nil, substitute.eq_1, List.append_nil] at alone
  | next literal name rest ih =>
    rw [text_next, substitute_literal literal (by simp),
      substitute_placeholder (placeholder?_append name rest.text), ih, filled, replacement,
      List.append_assoc]
    cases environment (String.ofList name.text) <;> rfl

theorem names_text (template : Template) : Substitution.names template.text = template.names := by
  induction template with
  | last literal =>
    have alone : Substitution.names (literal.text ++ []) = _ := names_literal literal nofun
    rwa [List.append_nil, Substitution.names.eq_1] at alone
  | next literal name rest ih =>
    rw [text_next, names_literal literal (by simp),
      names_placeholder (placeholder?_append name rest.text), ih, names]

end Template

/-- A text of any shape stays as it is if none of its placeholders asks for a variable that is
set. -/
theorem substitute_eq_self (unset : ∀ name ∈ names text, environment name = none) :
    substitute environment text = text := by
  induction text using placeholder_induction with
  | nil => rw [substitute]
  | placeholder rest name after found ih =>
    rw [names_placeholder found] at unset
    obtain ⟨here, later⟩ := List.forall_mem_cons.1 unset
    rw [substitute_placeholder found, replacement, here, ih later, eq_of_placeholder? found, written]
    simp
  | bare rest none ih =>
    rw [names_bare none] at unset
    rw [substitute_bare none, ih unset]
  | plain c rest other ih =>
    rw [names.eq_3 c rest other] at unset
    rw [substitute.eq_3 _ c rest other, ih unset]

/-- In every environment, each placeholder of a template is replaced by the value of its variable if
that is set, and nothing else is changed. A text stays as it is if no variable that it asks for is
set, and every text does if no variable is set at all. -/
theorem apply_template (environment : Environment) :
    (∀ template : Template,
      apply environment (String.ofList template.text) = String.ofList (template.filled environment) ∧
        names template.text = template.names) ∧
    (∀ content : String, (∀ name ∈ names content.toList, environment name = none) →
      apply environment content = content) ∧
    ((∀ name, environment name = none) → ∀ content, apply environment content = content) := by
  have unchanged : ∀ content : String, (∀ name ∈ names content.toList, environment name = none) →
      apply environment content = content := by
    intro content unset
    rw [apply, substitute_eq_self unset, String.ofList_toList]
  refine ⟨fun template ↦ ⟨?_, template.names_text⟩, unchanged, fun unset content ↦ ?_⟩
  · rw [apply, String.toList_ofList, template.substitute_text]
  · exact unchanged content fun name _ ↦ unset name

/-- One name goes on past the beginning of another placeholder, and both values make up a new
placeholder, one of them together with what follows it. -/
def nestedTemplate : Template :=
  .next ⟨"a$".toList, by decide⟩ ⟨"X".toList, by decide, by decide⟩ <|
    .next ⟨"\x7bY\x7d".toList, by decide⟩ ⟨"a$\x7bb".toList, by decide, by decide⟩ <|
      .next ⟨"\n".toList, by decide⟩ ⟨"Y".toList, by decide, by decide⟩ <|
        .last ⟨"\x7bX\x7d".toList, by decide⟩

theorem apply_template_nested :
    let environment := Environment.ofEntries ["X=$\x7bY\x7d", "Y=$"]
    apply environment "a$$\x7bX\x7d\x7bY\x7d$\x7ba$\x7bb\x7d\n$\x7bY\x7d\x7bX\x7d" =
        "a$$\x7bY\x7d\x7bY\x7d$\x7ba$\x7bb\x7d\n$\x7bX\x7d" ∧
      apply environment "$\x7bZ\x7d$\x7bX" = "$\x7bZ\x7d$\x7bX" ∧
        apply (.ofEntries []) "$\x7bX\x7d$\x7bX" = "$\x7bX\x7d$\x7bX" := by
  intro environment
  obtain ⟨filled, unchanged, -⟩ := apply_template environment
  obtain ⟨-, -, empty⟩ := apply_template (.ofEntries [])
  exact ⟨(filled nestedTemplate).1, unchanged _ (by decide +kernel), empty (fun _ ↦ rfl) _⟩

end Rulebook.Substitution
