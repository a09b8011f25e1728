import Rulebook.Proofs.Defaults.Placeholders
import Rulebook.Proofs.Program.FailSafe

/-!
# Logging decides nothing

How much a program logs, and how, is settled before anything is done, and can end it early: a
defaults file with a bad log format is refused at once, unless the command line gives a format. But
then the file is refused all the same when it is checked as a whole. So the options for logging show
in neither the exit code nor the disk, and the log filter does not either unless the defaults file
asks for its variable.
-/

namespace Rulebook

/-! ## Arguments without those for logging -/

def CommonArguments.withoutLogging (arguments : CommonArguments) : CommonArguments :=
  { arguments with verbose := false, logFormat := none }

namespace Invocation

/-- The command line without its options for logging. -/
def withoutLogging : Invocation → Invocation
  | expand arguments => expand { arguments with common := arguments.common.withoutLogging }
  | flatten arguments => flatten { arguments with common := arguments.common.withoutLogging }

variable {invocation other : Invocation}

theorem body_eq (same : invocation.withoutLogging = other.withoutLogging)
    (file : Option DefaultsFile) : invocation.body file = other.body file := by
  have body_withoutLogging (invocation : Invocation) :
      invocation.withoutLogging.body file = invocation.body file := by
    cases invocation <;> rfl
  rw [← body_withoutLogging, same, body_withoutLogging]

theorem config_eq (same : invocation.withoutLogging = other.withoutLogging) :
    invocation.common.config = other.common.config := by
  have config_withoutLogging (invocation : Invocation) :
      invocation.withoutLogging.common.config = invocation.common.config := by
    cases invocation <;> rfl
  rw [← config_withoutLogging, same, config_withoutLogging]

end Invocation

/-! ## Defaults files -/

/-- Without a format on the command line it is the file that sets it. -/
theorem CommonArguments.exists_of_logging_error {arguments : CommonArguments}
    {file : Option DefaultsFile} {failure : Failure}
    (h : arguments.logging file = .error failure) :
    ∃ given, file = some given ∧ given.logFormat = .error failure := by
  simp only [logging] at h
  cases chosen : arguments.logFormat with
  | some format =>
    rw [chosen] at h
    cases h
  | none =>
    rw [chosen] at h
    cases file with
    | none => cases h
    | some given =>
      cases format : given.logFormat with
      | ok found =>
        simp only [format] at h
        cases h
      | error bad =>
        simp only [format] at h
        cases h
        exact ⟨given, rfl, format⟩

/-- The format is the last thing to be checked, so the file may have failed before. -/
theorem DefaultsFile.exists_validate_error {file : DefaultsFile} {failure : Failure}
    (h : file.logFormat = .error failure) : ∃ first, file.validate = .error first := by
  rw [validate, h]
  cases file.validateExpand with
  | error first => exact ⟨first, rfl⟩
  | ok _ =>
    cases file.validateFlatten with
    | error first => exact ⟨first, rfl⟩
    | ok _ => exact ⟨failure, rfl⟩

/-- All that counts is the text that the placeholders leave behind. -/
theorem DefaultsFile.ofText_congr {environment other : Substitution.Environment} {content : String}
    (h : Substitution.apply environment content = Substitution.apply other content) :
    ofText environment content = ofText other content := by
  rw [ofText, h, ofText]

namespace Program

variable {command : Command} {arguments others : List String}
  {environment : Substitution.Environment} {disk : Disk} {invocation other : Invocation}
  {file : Option DefaultsFile}

/-- A file that logging stumbles over is refused by the command itself, which leaves no trace. -/
theorem run_body_of_logging_error {failure : Failure}
    (bad : invocation.common.logging file = .error failure) :
    exitCode ((invocation.body file).run disk).result = 1 ∧
      ((invocation.body file).run disk).store = disk := by
  obtain ⟨given, rfl, badFormat⟩ := CommonArguments.exists_of_logging_error bad
  obtain ⟨first, refused⟩ := DefaultsFile.exists_validate_error badFormat
  have product : invocation.checkedProduct (some given) disk = .error first := by
    rw [Invocation.checkedProduct, refused]
    rfl
  obtain ⟨result, same⟩ := (invocation.publishes_body (some given) disk).failed first product
  rw [result, same]
  exact ⟨rfl, rfl⟩

/-- Once its defaults file is read, a program ends as its command does, however it logs. -/
theorem invoke_of_defaults (h : defaults environment disk invocation.common = .ok file) :
    (invoke invocation environment disk).exitCode =
        exitCode ((invocation.body file).run disk).result ∧
      (invoke invocation environment disk).disk = ((invocation.body file).run disk).store := by
  rw [invoke, prepare_of_defaults h]
  cases logged : invocation.common.logging file with
  | error failure =>
    obtain ⟨failed, same⟩ := run_body_of_logging_error logged
    exact ⟨failed.symm, same.symm⟩
  | ok logging => exact ⟨rfl, rfl⟩

theorem invoke_of_defaults_error {failure : Failure}
    (h : defaults environment disk invocation.common = .error failure) :
    (invoke invocation environment disk).exitCode = 1 ∧
      (invoke invocation environment disk).disk = disk := by
  rw [invoke, prepare, h]
  exact ⟨rfl, rfl⟩

/-- A program that has something to write leaves the disk to one write. -/
theorem disk_invoke_of_product {text : String}
    (h : defaults environment disk invocation.common = .ok file)
    (product : invocation.checkedProduct file disk = .ok text) :
    (invoke invocation environment disk).disk =
      (Store.write disk (invocation.output file) (Text.Utf8.encode text)).2 := by
  have published := invocation.publishes_body file disk
  rw [product] at published
  exact (invoke_of_defaults h).2.trans published.store_of_ok

/-! ## Two runs -/

theorem defaults_eq {entries otherEntries : List String}
    (same : invocation.withoutLogging = other.withoutLogging)
    (differ : Substitution.DifferOnlyIn filterVariable entries otherEntries)
    (unmentioned : ∀ path content, invocation.common.config = some path →
      Store.read disk path = .ok content →
        ¬Substitution.Mentions content.toList filterVariable) :
    defaults (.ofEntries entries) disk invocation.common =
      defaults (.ofEntries otherEntries) disk other.common := by
  rw [defaults, defaults, ← Invocation.config_eq same]
  cases config : invocation.common.config with
  | none => rfl
  | some path =>
    dsimp only
    -- by definition and not by its equation, which takes the reading of a disk apart
    delta loadDefaults
    cases read : Store.read disk path with
    | error fault => rfl
    | ok content =>
      have applied := Substitution.apply_ofEntries_eq (by decide) differ
        (unmentioned path content config read)
      exact congrArg (Except.map some) (DefaultsFile.ofText_congr applied)

/-- Two runs whose arguments differ in the options for logging only, and whose environments differ
in the log filter only, end with the same exit code and leave the same disk, if the defaults file
does not mention the filter's variable. -/
theorem run_eq_of_logging
    (read : Invocation.read command arguments = .ok invocation)
    (readOther : Invocation.read command others = .ok other)
    (same : invocation.withoutLogging = other.withoutLogging) {entries otherEntries : List String}
    (differ : Substitution.DifferOnlyIn filterVariable entries otherEntries)
    (unmentioned : ∀ path content, invocation.common.config = some path →
      Store.read disk path = .ok content →
        ¬Substitution.Mentions content.toList filterVariable) :
    (run command arguments (.ofEntries entries) disk).exitCode =
        (run command others (.ofEntries otherEntries) disk).exitCode ∧
      (run command arguments (.ofEntries entries) disk).disk =
        (run command others (.ofEntries otherEntries) disk).disk := by
  have loaded := defaults_eq same differ unmentioned
  rw [run, run, read, readOther]
  dsimp only
  cases found : defaults (.ofEntries entries) disk invocation.common with
  | error failure =>
    obtain ⟨code, left⟩ := invoke_of_defaults_error found
    obtain ⟨code', left'⟩ := invoke_of_defaults_error (loaded.symm.trans found)
    exact ⟨code.trans code'.symm, left.trans left'.symm⟩
  | ok file =>
    obtain ⟨code, left⟩ := invoke_of_defaults found
    obtain ⟨code', left'⟩ := invoke_of_defaults (loaded.symm.trans found)
    rw [code, left, code', left', Invocation.body_eq same]
    exact ⟨rfl, rfl⟩

/-- A format that the command line overrides in one run and leaves in force in the other. -/
def badFormatDisk : Disk :=
  ⟨".", ⟨[(["t.toml"], .file (Text.Utf8.encode "[logging]\nformat = \"loud\"\n"))]⟩⟩

theorem run_eq_of_logging_badFormatDisk :
    let loud := run .expand ["expand", "-c", "t.toml", "-v", "--log-format", "json"]
      (.ofEntries ["RUST_LOG=trace", "HOME=/"]) badFormatDisk
    let plain := run .expand ["expand", "-c", "t.toml"] (.ofEntries ["HOME=/"]) badFormatDisk
    loud.exitCode = plain.exitCode ∧ loud.disk = plain.disk := by
  have loudRead : Invocation.read .expand ["expand", "-c", "t.toml", "-v", "--log-format", "json"] =
      .ok (.expand ⟨none, none, none, none, ⟨some "t.toml", true, some .json⟩⟩) := by
    decide +kernel
  have plainRead : Invocation.read .expand ["expand", "-c", "t.toml"] =
      .ok (.expand ⟨none, none, none, none, ⟨some "t.toml", false, none⟩⟩) :=
    rfl
  refine run_eq_of_logging loudRead plainRead rfl (by decide +kernel) ?_
  rintro path content ⟨⟩ read
  obtain rfl : "[logging]\nformat = \"loud\"\n" = content := Except.ok.inj read
  decide +kernel

/-! A value of the log filter's variable is also found under a longer name. -/

def askingText : String :=
  "[expand]\noutput = \"rules-$\x7bRUST_LOG=stanza_rules\x7d\"\n"

def askingDisk : Disk :=
  ⟨".", ⟨[(["t.toml"], .file (Text.Utf8.encode askingText))]⟩⟩

def asking : Invocation :=
  .expand ⟨some "a", some "d", some "80", none, ⟨some "t.toml", false, none⟩⟩

theorem disk_asking {entries : List String} {output : String}
    (loaded : DefaultsFile.ofText (.ofEntries entries) askingText =
      .ok ⟨some ⟨none, none, none, some output⟩, none, none⟩)
    (product : asking.checkedProduct (some ⟨some ⟨none, none, none, some output⟩, none, none⟩)
      askingDisk = .ok "[a]\nd,80\n") :
    (invoke asking (.ofEntries entries) askingDisk).disk =
      (Store.write askingDisk output (Text.Utf8.encode "[a]\nd,80\n")).2 := by
  have found : defaults (.ofEntries entries) askingDisk asking.common =
      .ok (some ⟨some ⟨none, none, none, some output⟩, none, none⟩) :=
    congrArg (Except.map some) loaded
  have target : asking.output (some ⟨some ⟨none, none, none, some output⟩, none, none⟩) = output :=
    rfl
  rw [disk_invoke_of_product found product, target]

/-- It is not enough that the defaults file has no placeholder of the variable itself. -/
theorem not_run_eq_of_logging :
    ¬∀ (command : Command) (arguments others : List String) (entries otherEntries : List String)
      (disk : Disk) (invocation other : Invocation),
      Invocation.read command arguments = .ok invocation →
      Invocation.read command others = .ok other →
      invocation.withoutLogging = other.withoutLogging →
      Substitution.DifferOnlyIn filterVariable entries otherEntries →
      (∀ path content, invocation.common.config = some path →
        Store.read disk path = .ok content →
          ¬Substitution.written filterVariable.toList <:+: content.toList) →
      (run command arguments (.ofEntries entries) disk).exitCode =
          (run command others (.ofEntries otherEntries) disk).exitCode ∧
        (run command arguments (.ofEntries entries) disk).disk =
          (run command others (.ofEntries otherEntries) disk).disk := by
  intro general
  have unwritten : ∀ path content, some "t.toml" = some path →
      Store.read askingDisk path = .ok content →
        ¬Substitution.written filterVariable.toList <:+: content.toList := by
    rintro path content ⟨⟩ read
    obtain rfl : askingText = content := Except.ok.inj read
    decide +kernel
  have read : Invocation.read .expand
      ["expand", "-c", "t.toml", "-s", "a", "-d", "d", "-p", "80"] = .ok asking :=
    rfl
  have same := (general _ _ _ ["RUST_LOG=stanza_rules=debug"] [] askingDisk asking asking read read
    rfl (by decide +kernel) unwritten).2
  rw [run, run, read] at same
  change (invoke asking _ askingDisk).disk = (invoke asking _ askingDisk).disk at same
  have set : (invoke asking (.ofEntries ["RUST_LOG=stanza_rules=debug"]) askingDisk).disk =
      (Store.write askingDisk "rules-debug" (Text.Utf8.encode "[a]\nd,80\n")).2 :=
    disk_asking (by decide +kernel) rfl
  have unset : (invoke asking (.ofEntries []) askingDisk).disk =
      (Store.write askingDisk "rules-$\x7bRUST_LOG=stanza_rules\x7d"
        (Text.Utf8.encode "[a]\nd,80\n")).2 :=
    disk_asking (by decide +kernel) rfl
  rw [set, unset] at same
  have onlyOne := congrArg (fun disk : Disk ↦ disk.tree.file? ["rules-debug"]) same
  cases onlyOne

end Program

end Rulebook
