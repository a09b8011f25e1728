import Rulebook.Proofs.Run.Publication
import Rulebook.Proofs.Settings.Validity
import Rulebook.Proofs.Store.Landing

/-!
# What flattening does to its input

Settings are refused if the output is spelled as the input is. That does not keep the input from
being overwritten: a run is free to write its rule list to another spelling of the same path.
`FlattenSettings.denotes_input_iff` tells exactly when the input is lost. With an output that is
derived from the input, or with canonical paths, it never is.
-/

namespace Rulebook.FlattenSettings

variable {settings : FlattenSettings} {disk : Disk} {place : Location} {data : ByteArray}

theorem input_ne_output (h : settings.validate = .ok ()) : settings.input ≠ settings.output :=
  (validate_eq_ok_iff.1 h).2.2

/-- What a run makes of its input is told by the bytes of the input. -/
theorem product_eq_ok_iff (input : disk.Denotes settings.input place data) {text : String} :
    settings.product disk = .ok text ↔ ∃ content rules,
      Text.Utf8.decode data = .ok content ∧ flatten content = .ok rules ∧
        ruleList rules = text := by
  rw [product, input.read]
  cases decoded : Text.Utf8.decode data with
  | error defect =>
    constructor
    · rintro ⟨⟩
    · rintro ⟨content, rules, ⟨⟩, -⟩
  | ok content =>
    change (flatten content).map ruleList = .ok text ↔ _
    cases flattened : flatten content with
    | error failure =>
      constructor
      · rintro ⟨⟩
      · rintro ⟨other, rules, ⟨⟩, accepted, -⟩
        cases flattened.symm.trans accepted
    | ok rules =>
      constructor
      · intro made
        exact ⟨content, rules, rfl, flattened, Except.ok.inj made⟩
      · rintro ⟨other, found, ⟨⟩, accepted, rfl⟩
        obtain rfl : rules = found := Except.ok.inj (flattened.symm.trans accepted)
        rfl

/-- The run lands on a file that it accepts, with a rule list that is not what the file holds. -/
structure Clobbers (settings : FlattenSettings) (disk : Disk) (place : Location)
    (data : ByteArray) : Prop where
  lands : disk.landing? settings.output = some place
  differs : ∃ content rules, Text.Utf8.decode data = .ok content ∧ flatten content = .ok rules ∧
    Text.Utf8.encode (ruleList rules) ≠ data

theorem not_clobbers_of_derived (input : disk.Denotes settings.input place data)
    (derived : settings.output = defaultOutput settings.input) :
    ¬settings.Clobbers disk place data := by
  intro clobbers
  have lands := clobbers.lands
  rw [derived, defaultOutput] at lands
  exact input.not_landing_append (by decide) (by decide) lands

theorem not_clobbers_of_canonical (valid : settings.validate = .ok ())
    (input : disk.Denotes settings.input place data) (canonical : IsCanonical settings.input)
    (canonicalOutput : IsCanonical settings.output) : ¬settings.Clobbers disk place data :=
  fun clobbers ↦
    input.not_landing canonical canonicalOutput (input_ne_output valid) clobbers.lands

theorem denotes_input_iff_not_clobbers (input : disk.Denotes settings.input place data) :
    (settings.staged.run.run disk).store.Denotes settings.input place data ↔
      ¬settings.Clobbers disk place data := by
  have published := settings.publishes disk
  cases product : settings.product disk with
  | error failure =>
    rw [(published.failed failure product).store]
    refine iff_of_true input fun clobbers ↦ ?_
    obtain ⟨content, rules, decoded, accepted, -⟩ := clobbers.differs
    have made := (product_eq_ok_iff input).2 ⟨content, rules, decoded, accepted, rfl⟩
    cases product.symm.trans made
  | ok text =>
    rw [product] at published
    rw [published.store_of_ok, input.write_iff]
    constructor
    · rintro same ⟨lands, content, rules, decoded, accepted, differs⟩
      have made := (product_eq_ok_iff input).2 ⟨content, rules, decoded, accepted, rfl⟩
      obtain rfl : text = ruleList rules := Except.ok.inj (product.symm.trans made)
      exact differs (same lands)
    · intro spared lands
      obtain ⟨content, rules, decoded, accepted, rfl⟩ := (product_eq_ok_iff input).1 product
      by_contra differs
      exact spared ⟨lands, content, rules, decoded, accepted, differs⟩

/-- A run leaves its input as it was, unless it lands on it with other bytes. That cannot happen if
the output is derived from the input, nor to valid settings with canonical paths. -/
theorem denotes_input_iff (settings : FlattenSettings)
    (input : disk.Denotes settings.input place data) :
    let after := (settings.staged.run.run disk).store
    (after.Denotes settings.input place data ↔ ¬settings.Clobbers disk place data) ∧
      (settings.output = defaultOutput settings.input →
        after.Denotes settings.input place data) ∧
      (settings.validate = .ok () → IsCanonical settings.input → IsCanonical settings.output →
        after.Denotes settings.input place data) := by
  have survives := denotes_input_iff_not_clobbers input
  refine ⟨survives, fun derived ↦ ?_, fun valid canonical canonicalOutput ↦ ?_⟩
  · exact survives.2 (not_clobbers_of_derived input derived)
  · exact survives.2 (not_clobbers_of_canonical valid input canonical canonicalOutput)

/-- A document next to which there is nothing. -/
def lonelyDisk : Disk :=
  ⟨".", ⟨[(["config"], .file (Text.Utf8.encode "[a]\nd,80\n"))]⟩⟩

theorem denotes_lonelyDisk :
    lonelyDisk.Denotes "config" ["config"] (Text.Utf8.encode "[a]\nd,80\n") where
  slashFree := rfl
  located := rfl
  file := rfl

theorem denotes_input_lonelyDisk :
    let data := Text.Utf8.encode "[a]\nd,80\n"
    lonelyDisk.Denotes "config" ["config"] data ∧
      ((ofInput "config").staged.run.run lonelyDisk).store.Denotes "config" ["config"] data ∧
      ((FlattenSettings.mk "config" "rules").staged.run.run lonelyDisk).store.Denotes "config"
        ["config"] data := by
  intro data
  obtain ⟨-, derived, -⟩ := denotes_input_iff (ofInput "config") denotes_lonelyDisk
  obtain ⟨-, -, canonical⟩ := denotes_input_iff ⟨"config", "rules"⟩ denotes_lonelyDisk
  exact ⟨denotes_lonelyDisk, derived rfl, canonical rfl (by decide +kernel) (by decide +kernel)⟩

/-- Valid settings can overwrite their input. -/
theorem not_denotes_input :
    ¬∀ (settings : FlattenSettings) (disk : Disk) (place : Location) (data : ByteArray),
      settings.validate = .ok () → disk.Denotes settings.input place data →
        (settings.staged.run.run disk).store.Denotes settings.input place data := by
  intro general
  have product : FlattenSettings.product ⟨"config", "./config"⟩ lonelyDisk = .ok "a,d,80\n" := rfl
  have published := FlattenSettings.publishes ⟨"config", "./config"⟩ lonelyDisk
  rw [product] at published
  have kept := (general ⟨"config", "./config"⟩ lonelyDisk _ _ rfl denotes_lonelyDisk).file
  rw [published.store_of_ok] at kept
  cases kept

end Rulebook.FlattenSettings
