import Rulebook.Proofs.Run.Publication
import Rulebook.Proofs.Values.Spelling

/-!
# Inline or in a file

Whether values stand inline or in a list file makes no difference to what is done with them: both
forms resolve to the same values, and an expand run ends in the same way after any of its arguments
has changed its form.
-/

namespace Rulebook

namespace ValueList

section Forms

variable {σ : Type} [Store σ] (store : σ)

/-- Two arguments for the same values: one joins them, the other names a list file of the store that
spells them. -/
structure TwoForms (inline file : String) (values : List String) : Prop where
  nonempty : values ≠ []
  listable : ∀ value ∈ values, IsListable value
  joined : inline = ",".intercalate values
  notFile : isListFile inline = false
  isFile : isListFile file = true
  stored : ∃ content, Store.read store file = .ok content ∧ Spells content.toList values

/-- One argument may take the place of the other. -/
inductive Interchangeable : String → String → Prop where
  | same (argument : String) : Interchangeable argument argument
  | toFile {inline file : String} {values : List String} (forms : TwoForms store inline file values) :
    Interchangeable inline file
  | toInline {inline file : String} {values : List String}
    (forms : TwoForms store inline file values) : Interchangeable file inline

end Forms

variable {σ : Type} [Store σ] {store : σ} {inline file : String} {values : List String}

namespace TwoForms

theorem resolve_inline (h : TwoForms store inline file values) :
    resolve store inline = .ok values := by
  have commaFree : ∀ value ∈ values, ',' ∉ value.toList :=
    fun value mem ↦ (h.listable value mem).commaFree
  rw [resolve, if_neg (by simp [h.notFile]), h.joined, splitInline_intercalate h.nonempty commaFree]

theorem resolve_file (h : TwoForms store inline file values) :
    resolve store file = .ok values := by
  obtain ⟨content, read, spells⟩ := h.stored
  rw [resolve, if_pos h.isFile, read]
  exact ofFile_of_spells spells h.listable

end TwoForms

theorem Interchangeable.resolve_eq {argument other : String}
    (h : Interchangeable store argument other) : resolve store other = resolve store argument := by
  cases h with
  | same => rfl
  | toFile forms => rw [forms.resolve_file, forms.resolve_inline]
  | toInline forms => rw [forms.resolve_file, forms.resolve_inline]

end ValueList

namespace ExpandSettings

variable {σ : Type} [Store σ] {store : σ} {settings other : ExpandSettings}

/-- The settings differ in the form of their arguments at most. -/
structure Switches (store : σ) (settings other : ExpandSettings) : Prop where
  source : ValueList.Interchangeable store settings.source other.source
  destination : ValueList.Interchangeable store settings.destination other.destination
  ports : ValueList.Interchangeable store settings.ports other.ports
  output : other.output = settings.output

theorem Switches.product_eq (h : settings.Switches store other) :
    other.product store = settings.product store := by
  rw [product, product, resolve, resolve, h.source.resolve_eq, h.destination.resolve_eq,
    h.ports.resolve_eq]

end ExpandSettings

namespace ValueList

/-- Values that are joined and values that are listed in a file resolve to the same, and an expand
run has the same result and leaves the same store whichever form each of its arguments has. -/
theorem forms_interchangeable {σ : Type} [Store σ] (store : σ) :
    (∀ inline file values, TwoForms store inline file values →
      ((gather inline).run store).result = .ok values ∧
        ((gather file).run store).result = .ok values) ∧
    ∀ settings other : ExpandSettings, settings.Switches store other →
      (other.staged.run.run store).result = (settings.staged.run.run store).result ∧
        (other.staged.run.run store).store = (settings.staged.run.run store).store := by
  constructor
  · intro inline file values forms
    rw [(yields_gather inline store).result, (yields_gather file store).result]
    exact ⟨forms.resolve_inline, forms.resolve_file⟩
  · intro settings other switches
    have published := other.publishes store
    rw [switches.output, switches.product_eq] at published
    exact published.agree (settings.publishes store)

/-- The file has both line ends, comments, an empty line and an open last line. -/
def sampleList : String :=
  "# spare\r\n\nd1\r\n#\rd3\nd2"

theorem twoForms_sampleList :
    TwoForms ((∅ : MemoryStore).withFile "dest.config" sampleList) "d1,d2" "dest.config"
      ["d1", "d2"] where
  nonempty := by decide
  listable := by decide
  joined := rfl
  notFile := rfl
  isFile := rfl
  stored := by
    have last : Spells ("#\rd3".toList ++ ['\n'] ++ "d2".toList) ["d2"] :=
      .filler (.comment (by decide)) .feed (.openValue "d2")
    have first : Spells ("d1".toList ++ ['\r', '\n'] ++ _) ["d1", "d2"] :=
      .value "d1" .returnFeed last
    have spare : Spells ("# spare".toList ++ ['\r', '\n'] ++ ([] ++ ['\n'] ++ _)) ["d1", "d2"] :=
      .filler (.comment (by decide)) .returnFeed (.filler .empty .feed first)
    exact ⟨sampleList, rfl, spare⟩

theorem forms_interchangeable_sampleList :
    let store := (∅ : MemoryStore).withFile "dest.config" sampleList
    let inline := ExpandSettings.mk "a" "d1,d2" "80" "document"
    let listed := ExpandSettings.mk "a" "dest.config" "80" "document"
    ((gather "d1,d2").run store).result = .ok ["d1", "d2"] ∧
      ((gather "dest.config").run store).result = .ok ["d1", "d2"] ∧
        (listed.staged.run.run store).result = (inline.staged.run.run store).result ∧
          (listed.staged.run.run store).store = (inline.staged.run.run store).store := by
  intro store inline listed
  obtain ⟨resolved, switched⟩ := forms_interchangeable store
  obtain ⟨joined, stored⟩ := resolved _ _ _ twoForms_sampleList
  exact ⟨joined, stored,
    switched inline listed ⟨.same "a", .toFile twoForms_sampleList, .same "80", rfl⟩⟩

end ValueList

end Rulebook
