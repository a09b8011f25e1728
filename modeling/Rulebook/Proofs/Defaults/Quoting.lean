import Rulebook.Defaults.File
import Rulebook.Proofs.Defaults.Template
import Rulebook.Proofs.Toml.Kept
import Rulebook.Proofs.Toml.Strings

/-!
# Values between quotation marks

A value is put into the text before the text is read, and nothing in it is escaped. Between
quotation marks it is read back just if it is plain. Any other value ends its string, or is
unescaped, or makes the file unreadable: `DefaultsFile.ofText_quotedPorts`.
-/

namespace Rulebook

namespace Toml

variable {text : List Char} {table : Table}

/-! ## Statement by statement -/

theorem value?_quote (fuel nesting : Nat) (rest : List Char) :
    value? (fuel + 1) nesting ('"' :: rest) =
      (string? ('"' :: rest)).map fun result ↦ (.string (String.ofList result.1), result.2) := by
  rw [value?]

theorem statement?_expand (rest : List Char) :
    statement? ("[expand]\n".toList ++ rest) = some (.header [] "expand", '\n' :: rest) := rfl

theorem statement?_ports (rest : List Char) :
    statement? ("ports = ".toList ++ '"' :: rest) =
      (string? ('"' :: rest)).map fun result ↦
        (.pair [] "ports" (.string (String.ofList result.1)), result.2) := by
  -- The fuel is the length of the text, so it first has to be written as a successor.
  have keys (fuel : Nat) : keys? (fuel + 1) ("ports = ".toList ++ '"' :: rest) =
      some (([], "ports"), '=' :: ' ' :: '"' :: rest) := rfl
  have spaces : skipSpaces (' ' :: '"' :: rest) = '"' :: rest := rfl
  have start : "ports = ".toList ++ '"' :: rest = 'p' :: ("orts = ".toList ++ '"' :: rest) := rfl
  have long : ("ports = ".toList ++ '"' :: rest).length = (rest.length + 8) + 1 := by simp
  rw [start, statement?.eq_3 _ (by simp) (by simp), ← start]
  simp only [long, keys, Option.bind_eq_bind, Option.bind_some, spaces, value?_quote,
    Option.bind_map]
  rw [Option.map_eq_bind]
  rfl

/-- A text that does not start with blank text starts with a statement, which has its line to
itself. -/
theorem statements?_succ (fuel : Nat) (start : skipBlank false text = some text)
    (nonempty : text ≠ []) :
    statements? (fuel + 1) text =
      (statement? text).bind fun (statement, rest) ↦ (finishLine false rest).bind fun after ↦
        (statements? fuel after).map (statement :: ·) := by
  rw [statements?, start, Option.bind_eq_bind, Option.bind_some]
  split
  case h_1 empty => exact absurd rfl nonempty
  case h_2 =>
    simp only [Option.map_eq_bind]
    rfl

theorem statements?_expand (fuel : Nat) (rest : List Char) :
    statements? (fuel + 1) ("[expand]\n".toList ++ rest) =
      (statements? fuel rest).map (.header [] "expand" :: ·) := by
  rw [statements?_succ fuel rfl (by simp), statement?_expand]
  rfl

/-- The ports in the section of the file, as they are after the first two statements. -/
def portsTable (ports : List Char) : Table :=
  [("expand", .table .opened [("ports", .string (String.ofList ports))])]

theorem read?_ports (rest : List Char) :
    read? (String.ofList ("[expand]\n".toList ++ ("ports = ".toList ++ '"' :: rest))) =
      (string? ('"' :: rest)).bind fun (text, left) ↦ (finishLine false left).bind fun after ↦
        (statements? (rest.length + 17) after).bind (assemble? (portsTable text) ["expand"]) := by
  have long : ("[expand]\n".toList ++ ("ports = ".toList ++ '"' :: rest)).length + 1 =
      (rest.length + 17) + 1 + 1 := by
    simp
  have noMark (text : List Char) : dropByteOrderMark ("[expand]\n".toList ++ text) =
      "[expand]\n".toList ++ text := rfl
  rw [read?, String.toList_ofList]
  simp only [noMark, long]
  rw [statements?_expand, statements?_succ _ rfl (by simp), statement?_ports]
  simp only [Option.map_eq_bind, Option.bind_eq_bind, Option.bind_assoc]
  rfl

/-! ## The ports that are taken -/

theorem eq_map_of_settings? {names : List String} {kind : TableKind} {values : List (Option Value)}
    (h : settings? names (.table kind table) = some values) :
    values = names.map fun name ↦ table.lookup name := by
  rw [settings?] at h
  split_ifs at h
  exact (Option.some.inj h).symm

theorem ports_of_expandDefaults? {value : Value} {defaults : ExpandDefaults} {ports : String}
    (holds : value.Holds ["ports"] ports) (h : expandDefaults? value = some defaults) :
    defaults.ports = some ports := by
  cases holds with
  | table found inner =>
    cases inner
    obtain ⟨values, allowed, h⟩ := Option.bind_eq_some_iff.1 h
    obtain rfl := eq_map_of_settings? allowed
    simp only [List.map_cons, List.map_nil, found] at h
    obtain ⟨source, -, h⟩ := Option.bind_eq_some_iff.1 h
    obtain ⟨destination, -, h⟩ := Option.bind_eq_some_iff.1 h
    obtain ⟨read, isText, h⟩ := Option.bind_eq_some_iff.1 h
    obtain ⟨output, -, h⟩ := Option.bind_eq_some_iff.1 h
    obtain rfl := Option.some.inj h
    exact (Option.some.inj isText).symm

theorem ports_of_defaultsFile? {file : DefaultsFile} {ports : String}
    (holds : (Value.table .opened table).Holds ["expand", "ports"] ports)
    (h : defaultsFile? table = some file) : file.expand.bind ExpandDefaults.ports = some ports := by
  cases holds with
  | table found inner =>
    obtain ⟨values, allowed, h⟩ := Option.bind_eq_some_iff.1 h
    obtain rfl := eq_map_of_settings? allowed
    simp only [List.map_cons, List.map_nil, found] at h
    obtain ⟨expand, decoded, h⟩ := Option.bind_eq_some_iff.1 h
    obtain ⟨flatten, -, h⟩ := Option.bind_eq_some_iff.1 h
    obtain ⟨logging, -, h⟩ := Option.bind_eq_some_iff.1 h
    obtain rfl := Option.some.inj h
    obtain ⟨defaults, isDefaults, rfl⟩ := Option.map_eq_some_iff.1 decoded
    exact ports_of_expandDefaults? inner isDefaults

end Toml

namespace DefaultsFile

open Substitution (Environment)

/-- A file that takes the ports from a variable, between quotation marks. -/
def quotedPorts : String :=
  "[expand]\nports = \"$\x7bST_P\x7d\"\n"

def quotedTemplate : Substitution.Template :=
  .next ⟨"[expand]\nports = \"".toList, by decide +kernel⟩ ⟨"ST_P".toList, by decide, by decide⟩ <|
    .last ⟨"\"\n".toList, by decide⟩

/-- The defaults that set the ports and nothing else. -/
def portsOnly (ports : String) : DefaultsFile :=
  ⟨some ⟨none, none, some ports, none⟩, none, none⟩

variable {environment : Environment} {value : String} {file : DefaultsFile}

theorem apply_quotedPorts (set : environment "ST_P" = some value) :
    Substitution.apply environment quotedPorts = "[expand]\nports = \"" ++ value ++ "\"\n" := by
  have cut : quotedPorts.toList = quotedTemplate.text := rfl
  have filled : quotedTemplate.filled environment =
      "[expand]\nports = \"".toList ++ value.toList ++ "\"\n".toList := by
    simp only [quotedTemplate, Substitution.Template.filled, String.ofList_toList, set,
      Option.elim_some]
  rw [Substitution.apply, cut, quotedTemplate.substitute_text, filled]
  simp only [String.ofList_append, String.ofList_toList]

/-- The table of the file once the string between the quotation marks is read. -/
theorem read?_quotedPorts (set : environment "ST_P" = some value) :
    Toml.read? (Substitution.apply environment quotedPorts) =
      (Toml.string? ('"' :: (value.toList ++ ['"', '\n']))).bind fun (text, left) ↦
        (Toml.finishLine false left).bind fun after ↦
          (Toml.statements? ((value.toList ++ ['"', '\n']).length + 17) after).bind
            (Toml.assemble? (Toml.portsTable text) ["expand"]) := by
  have text : Substitution.apply environment quotedPorts = String.ofList
      ("[expand]\n".toList ++ ("ports = ".toList ++ '"' :: (value.toList ++ ['"', '\n']))) := by
    rw [apply_quotedPorts set, ← String.toList_inj]
    simp
  rw [text, Toml.read?_ports]

theorem ofText_of_isPlain (set : environment "ST_P" = some value)
    (plain : Toml.IsPlain value.toList) :
    ofText environment quotedPorts = .ok (portsOnly value) := by
  have read : Toml.read? (Substitution.apply environment quotedPorts) =
      some (Toml.portsTable value.toList) := by
    rw [read?_quotedPorts set, Toml.string?_of_isPlain plain (by decide)]
    rfl
  have decoded : Toml.defaultsFile? (Toml.portsTable value.toList) = some (portsOnly value) := by
    rw [Toml.portsTable, String.ofList_toList]
    rfl
  rw [ofText, read]
  simp only [decoded]

theorem isPlain_of_ofText (set : environment "ST_P" = some value)
    (read : ofText environment quotedPorts = .ok file)
    (same : file.expand.bind ExpandDefaults.ports = some value) : Toml.IsPlain value.toList := by
  rw [ofText, read?_quotedPorts set] at read
  split at read
  case h_1 => cases read
  case h_2 table isTable =>
    obtain ⟨⟨text, rest⟩, isString, isTable⟩ := Option.bind_eq_some_iff.1 isTable
    obtain ⟨after, -, isTable⟩ := Option.bind_eq_some_iff.1 isTable
    obtain ⟨statements, -, assembled⟩ := Option.bind_eq_some_iff.1 isTable
    -- Whatever statements the value goes on with, the ports stay what its first string says.
    have ports : (Toml.Value.table .opened table).Holds ["expand", "ports"] (String.ofList text) :=
      (Toml.keeps_of_assemble? assembled).tables .opened .opened _ _
        (.table rfl (.table rfl (.string _)))
    split at read
    case h_1 => cases read
    case h_2 file decoded =>
      obtain rfl := Except.ok.inj read
      have taken := Toml.ports_of_defaultsFile? ports decoded
      have : String.ofList text = value := Option.some.inj (taken.symm.trans same)
      rw [← this, String.toList_ofList] at isString ⊢
      exact Toml.isPlain_of_string? isString

/-- The text that is read holds the value as it stands. If the value is plain, the file sets the
ports to it and nothing else. If it is not, the file is not read or sets other ports. -/
theorem ofText_quotedPorts (set : environment "ST_P" = some value) :
    Substitution.apply environment quotedPorts = "[expand]\nports = \"" ++ value ++ "\"\n" ∧
    (ofText environment quotedPorts = .ok (portsOnly value) ↔ Toml.IsPlain value.toList) ∧
    (¬Toml.IsPlain value.toList → ∀ file, ofText environment quotedPorts = .ok file →
      file.expand.bind ExpandDefaults.ports ≠ some value) := by
  refine ⟨apply_quotedPorts set, ⟨fun read ↦ ?_, ofText_of_isPlain set⟩, ?_⟩
  · exact isPlain_of_ofText set read rfl
  · intro notPlain file read same
    exact notPlain (isPlain_of_ofText set read same)

/-- Placeholders, comments and brackets have no meaning between quotation marks, and a backslash
has one. -/
theorem ofText_quotedPorts_plain :
    ofText (.ofEntries ["ST_P=\t[x] = 'é' # $\x7bST_P\x7d"]) quotedPorts =
        .ok (portsOnly "\t[x] = 'é' # $\x7bST_P\x7d") ∧
      ∀ file, ofText (.ofEntries ["ST_P=8\\t0"]) quotedPorts = .ok file →
        file.expand.bind ExpandDefaults.ports ≠ some "8\\t0" := by
  have setPlain : Environment.ofEntries ["ST_P=\t[x] = 'é' # $\x7bST_P\x7d"] "ST_P" =
      some "\t[x] = 'é' # $\x7bST_P\x7d" := rfl
  have setEscaped : Environment.ofEntries ["ST_P=8\\t0"] "ST_P" = some "8\\t0" := rfl
  obtain ⟨-, plain, -⟩ := ofText_quotedPorts setPlain
  obtain ⟨-, -, escaped⟩ := ofText_quotedPorts setEscaped
  exact ⟨plain.2 (by decide), escaped (by decide)⟩

/-- The value of the ports ends its string and sets the output as well. -/
def injecting : Environment :=
  .ofEntries ["ST_P=80\"\noutput = \"stolen"]

theorem ofText_injecting :
    ofText injecting quotedPorts = .ok ⟨some ⟨none, none, some "80", some "stolen"⟩, none, none⟩ ∧
      ¬∀ (environment : Environment) (value : String), '\x00' ∉ value.toList →
        environment "ST_P" = some value →
        ofText environment quotedPorts = .ok (portsOnly value) := by
  have read : ofText injecting quotedPorts =
      .ok ⟨some ⟨none, none, some "80", some "stolen"⟩, none, none⟩ := by
    decide +kernel
  refine ⟨read, fun always ↦ ?_⟩
  have portsAlone := always injecting "80\"\noutput = \"stolen" (by decide) rfl
  exact absurd (read.symm.trans portsAlone) (by decide)

end DefaultsFile

end Rulebook
