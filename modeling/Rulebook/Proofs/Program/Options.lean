import Mathlib.Tactic.FinCases
import Rulebook.Program
import Rulebook.Proofs.Lookup

/-!
# Options in any order

A command line can give the same options in many ways: in any order, and each by its short or its
long name.  The arguments that are read from it are the same, and each setting comes from the first
of three layers that has it: the command line, the defaults file, and what is built in.

The reader examines an option only when the next one is reached.  So what is kept from word to word
is not what has been accepted already, but what settling the last option would accept.
-/

namespace Rulebook

/-! ## Command lines -/

/-- The words that name an option of a command. -/
def Command.spellings : Command → Key → List String
  | expand, .source => ["-s", "--source"]
  | expand, .destination => ["-d", "--dest"]
  | expand, .ports => ["-p", "--ports"]
  | expand, .output => ["-o", "--output"]
  | flatten, .input => ["-i", "--iconfig"]
  | flatten, .output => ["-o", "--oconfig"]
  | _, .config => ["-c", "--config"]
  | _, .verbose => ["-v", "--verbose"]
  | _, .logFormat => ["--log-format"]
  | _, _ => []

/-- The words that give one option. Only the flag for verbose output has no value. -/
inductive Command.Gives (command : Command) : Key × String → List String → Prop where
  | valued {key : Key} {word value : String} (spelled : word ∈ command.spellings key)
      (notFlag : key ≠ .verbose) (plain : value.toList.head? ≠ some '-')
      (known : key = .logFormat → ∃ format, LogFormat.ofName value = .ok format) :
      Gives command (key, value) [word, value]
  | flag {word : String} (spelled : word ∈ command.spellings .verbose) :
      Gives command (.verbose, "") [word]

/-- The words that give some options, one after the other. -/
inductive Command.Lists (command : Command) : List (Key × String) → List String → Prop where
  | nil : Lists command [] []
  | cons {option : Key × String} {options : List (Key × String)} {words more : List String}
      (first : command.Gives option words) (later : command.Lists options more) :
      Lists command (option :: options) (words ++ more)

/-- Which options are given, and with which values. -/
abbrev Selection :=
  Key → Option String

/-- The words give the options of a selection, each of them once, in some order. -/
def Selection.IsWritten (command : Command) (selection : Selection) (words : List String) : Prop :=
  ∃ options, command.Lists options words ∧ (options.map Prod.fst).Nodup ∧
    ∀ key value, (key, value) ∈ options ↔ selection key = some value

/-! ## Reading them -/

namespace Reading

variable {command : Command} {reading : Reading} {given options : List (Key × String)}
  {key : Key} {value word : String} {words rest : List String}

theorem accept_of_fresh (fresh : key ∉ given.map Prod.fst)
    (known : key = .logFormat → ∃ format, LogFormat.ofName value = .ok format) :
    accept given key value = .ok (given ++ [(key, value)]) := by
  have absent : given.lookup key = none := by
    rw [List.lookup_eq_none_iff]
    intro option mem
    rw [bne_iff_ne]
    rintro rfl
    exact fresh (List.mem_map_of_mem mem)
  rw [accept, absent]
  · rfl
  · rintro fault rfl unknown
    obtain ⟨format, isFormat⟩ := known rfl
    rw [isFormat] at unknown
    cases unknown

theorem arguments_cons {next : Reading} (notEnd : word ≠ "--")
    (read : reading.argument command word = .ok next) :
    reading.arguments command (word :: rest) = next.arguments command rest := by
  rw [arguments.eq_def]
  simp only [if_neg notEnd, read]

theorem argument_of_plain (plain : word.toList.head? ≠ some '-') (reading : Reading) :
    reading.argument command word = reading.supply word := by
  unfold argument
  split
  · rename_i chars
    simp [chars] at plain
  · rename_i chars
    simp [chars] at plain
  · rfl

/-- The name of an option with a value opens the option, whatever was read before. -/
theorem argument_of_spelled (spelled : word ∈ command.spellings key) (notFlag : key ≠ .verbose)
    (reading : Reading) : word ≠ "--" ∧ reading.argument command word = reading.await key := by
  cases key with
  | verbose => exact absurd rfl notFlag
  | _ => cases command <;> fin_cases spelled <;> exact ⟨by decide, rfl⟩

theorem letters_of_flag {next : Reading} {switch : Switch} {letter : Char} {letters : List Char}
    (lettered : command.lettered? letter = some switch) (valueless : switch.takesValue = false)
    (taken : reading.flag switch.key = .ok next) :
    reading.letters command (letter :: letters) = next.letters command letters := by
  rw [Reading.letters, lettered]
  simp [valueless, taken]

theorem argument_of_flag {next : Reading} (spelled : word ∈ command.spellings .verbose)
    (taken : reading.flag .verbose = .ok next) :
    word ≠ "--" ∧ reading.argument command word = .ok next := by
  have lettered : command.lettered? 'v' = some ⟨.verbose, "verbose", 'v', false⟩ := by
    cases command <;> decide
  have short : reading.argument command "-v" = .ok next :=
    letters_of_flag lettered rfl taken
  have long : reading.argument command "--verbose" = .ok next := by
    rw [← taken]
    cases command <;> rfl
  cases command <;> fin_cases spelled <;> exact ⟨by decide, by assumption⟩

/-- The words of one option leave a reading that would settle for this option as well. -/
theorem arguments_of_gives (gives : command.Gives (key, value) words)
    (settled : reading.settle = .ok given) (fresh : key ∉ given.map Prod.fst) :
    ∃ next : Reading, next.settle = .ok (given ++ [(key, value)]) ∧
      ∀ rest, reading.arguments command (words ++ rest) = next.arguments command rest := by
  cases gives with
  | @valued _ word _ spelled notFlag plain known =>
    have opened : reading.await key = .ok ⟨given, some (key, none)⟩ := by
      rw [await, settled]
      rfl
    obtain ⟨notEnd, read⟩ := argument_of_spelled spelled notFlag reading
    have notEnd' : value ≠ "--" := by
      rintro rfl
      exact plain rfl
    refine ⟨⟨given, some (key, some value)⟩, accept_of_fresh fresh known, fun rest ↦ ?_⟩
    rw [List.cons_append, List.cons_append, List.nil_append,
      arguments_cons notEnd (read.trans opened),
      arguments_cons notEnd' ((argument_of_plain plain _).trans rfl)]
  | @flag word spelled =>
    have accepted : accept given .verbose "" = .ok (given ++ [(.verbose, "")]) :=
      accept_of_fresh fresh Key.noConfusion
    have taken : reading.flag .verbose = .ok ⟨given ++ [(.verbose, "")], none⟩ := by
      change reading.take .verbose "" = _
      rw [take, settled]
      change accept given .verbose "" >>= _ = _
      rw [accepted]
      rfl
    obtain ⟨notEnd, read⟩ := argument_of_flag spelled taken
    exact ⟨_, rfl, fun rest ↦ arguments_cons notEnd read⟩

/-- The words of several options, each given once, are read as these options. -/
theorem arguments_of_lists (lists : command.Lists options words)
    (settled : reading.settle = .ok given)
    (once : ((given ++ options).map Prod.fst).Nodup) :
    reading.arguments command words = .ok (given ++ options) := by
  induction lists generalizing reading given with
  | nil => rw [arguments, settled, List.append_nil]
  | @cons option options words more first later ih =>
    have fresh : option.1 ∉ given.map Prod.fst := by
      intro before
      rw [List.map_append, List.nodup_append] at once
      exact once.2.2 _ before option.1 (List.mem_map_of_mem List.mem_cons_self) rfl
    obtain ⟨next, settled, read⟩ := arguments_of_gives first settled fresh
    rw [read, ih settled (by simpa using once)]
    simp

end Reading

/-! ## What is read -/

/-- The arguments that a command has for its selection. -/
def Selection.invocation (selection : Selection) (command : Command) : Invocation :=
  let common : CommonArguments :=
    { config := selection .config
      verbose := (selection .verbose).isSome
      logFormat := (selection .logFormat).bind fun name ↦ (LogFormat.ofName name).toOption }
  match command with
  | .expand => .expand
      ⟨selection .source, selection .destination, selection .ports, selection .output, common⟩
  | .flatten => .flatten ⟨selection .input, selection .output, common⟩

theorem Invocation.read_of_lists {command : Command} {options : List (Key × String)}
    {words : List String} (lists : command.Lists options words)
    (once : (options.map Prod.fst).Nodup) (program : String) :
    read command (program :: words) = .ok (Selection.invocation (options.lookup ·) command) := by
  have settled : Reading.start.settle = .ok [] := rfl
  have given : readArguments command (program :: words) = .ok options :=
    Reading.arguments_of_lists lists settled once
  cases command with
  | expand =>
    rw [read, ExpandArguments.read, given]
    rfl
  | flatten =>
    rw [read, FlattenArguments.read, given]
    rfl

/-! ## Three layers -/

/-- A setting that is given on the command line, or else in the defaults file, or else built in. -/
inductive Layered (builtIn : String) : Option String → Option String → String → Prop where
  | given (value : String) (file : Option String) : Layered builtIn (some value) file value
  | filed (value : String) : Layered builtIn none (some value) value
  | builtIn : Layered builtIn none none builtIn

theorem layered_getD (builtIn : String) (given file : Option String) :
    Layered builtIn given file ((given <|> file).getD builtIn) := by
  cases given with
  | some value => exact .given value file
  | none =>
    cases file with
    | some value => exact .filed value
    | none => exact .builtIn

structure ExpandSettings.IsMerged (selection : Selection) (file : Option ExpandDefaults)
    (settings : ExpandSettings) : Prop where
  source : Layered "source.config" (selection .source) (file.bind ExpandDefaults.source)
    settings.source
  destination : Layered "dest.config" (selection .destination)
    (file.bind ExpandDefaults.destination) settings.destination
  ports : Layered "ports.config" (selection .ports) (file.bind ExpandDefaults.ports) settings.ports
  output : Layered "output_config" (selection .output) (file.bind ExpandDefaults.output)
    settings.output

/-- The output is derived from the input in force, whichever layer that comes from. -/
structure FlattenSettings.IsMerged (selection : Selection) (file : Option FlattenDefaults)
    (settings : FlattenSettings) : Prop where
  input : Layered "config" (selection .input) (file.bind FlattenDefaults.input) settings.input
  output : Layered (settings.input ++ "_out") (selection .output)
    (file.bind FlattenDefaults.output) settings.output

/-- The settings of a command are merged from its selection and its section of the file. -/
def Invocation.IsMerged (selection : Selection) (file : Option DefaultsFile) : Invocation → Prop
  | expand arguments =>
    (arguments.settings file).IsMerged selection (file.bind DefaultsFile.expand)
  | flatten arguments =>
    (arguments.settings file).IsMerged selection (file.bind DefaultsFile.flatten)

theorem Selection.isMerged_invocation (selection : Selection) (command : Command)
    (file : Option DefaultsFile) : (selection.invocation command).IsMerged selection file := by
  cases command with
  | expand => exact ⟨layered_getD .., layered_getD .., layered_getD .., layered_getD ..⟩
  | flatten => exact ⟨layered_getD .., layered_getD ..⟩

/-- However the options of a selection are ordered and spelled, and whatever the program is called,
the command line is read, and its arguments depend on the selection only. Every setting is merged
from the three layers. -/
theorem Selection.read_of_isWritten {command : Command} {selection : Selection}
    {words : List String} (written : selection.IsWritten command words) (program : String) :
    Invocation.read command (program :: words) = .ok (selection.invocation command) ∧
      ∀ file, (selection.invocation command).IsMerged selection file := by
  obtain ⟨options, lists, once, same⟩ := written
  have selected : (options.lookup ·) = selection := by
    funext key
    ext value
    rw [lookup_eq_some_iff_mem once, same]
  refine ⟨?_, selection.isMerged_invocation command⟩
  rw [← selected]
  exact Invocation.read_of_lists lists once program

theorem Selection.isWritten_of_perm {command : Command} {options others : List (Key × String)}
    {words : List String} (once : (options.map Prod.fst).Nodup) (perm : others.Perm options)
    (lists : command.Lists others words) :
    Selection.IsWritten command (options.lookup ·) words := by
  refine ⟨others, lists, (perm.map Prod.fst).nodup_iff.2 once, fun key value ↦ ?_⟩
  rw [perm.mem_iff, lookup_eq_some_iff_mem once]

/-- Two lines for one selection, which differ in their order, their spellings and the program's
name. -/
theorem Selection.read_of_isWritten_sample :
    let options := [(Key.verbose, ""), (.input, "web"), (.logFormat, "JSON"), (.config, "")]
    let selection : Selection := (options.lookup ·)
    let words := ["-v", "--iconfig", "web", "--log-format", "JSON", "-c", ""]
    let others := ["--config", "", "--log-format", "JSON", "-i", "web", "--verbose"]
    let invocation := Invocation.flatten ⟨some "web", none, ⟨some "", true, some .json⟩⟩
    (selection.IsWritten .flatten words ∧
      Invocation.read .flatten ("flatten" :: words) = .ok invocation ∧
        ∀ file, invocation.IsMerged selection file) ∧
    selection.IsWritten .flatten others ∧
      Invocation.read .flatten ("" :: others) = .ok invocation ∧
        ∀ file, invocation.IsMerged selection file := by
  intro options selection words others invocation
  have once : (options.map Prod.fst).Nodup := by decide
  have input {word : String} (spelled : word ∈ Command.flatten.spellings .input) :
      Command.flatten.Gives (.input, "web") [word, "web"] :=
    .valued spelled (by decide) (by decide) Key.noConfusion
  have config {word : String} (spelled : word ∈ Command.flatten.spellings .config) :
      Command.flatten.Gives (.config, "") [word, ""] :=
    .valued spelled (by decide) (by decide) Key.noConfusion
  have format : Command.flatten.Gives (.logFormat, "JSON") ["--log-format", "JSON"] :=
    .valued (by decide) (by decide) (by decide) fun _ ↦ ⟨.json, by decide +kernel⟩
  have written : selection.IsWritten .flatten words := by
    refine isWritten_of_perm once (.refl options) ?_
    exact .cons (.flag (by decide)) <| .cons (input (by decide)) <| .cons format <|
      .cons (config (by decide)) .nil
  have rewritten : selection.IsWritten .flatten others := by
    have perm : List.Perm [(.config, ""), (.logFormat, "JSON"), (.input, "web"), (.verbose, "")]
        options := by
      decide
    refine isWritten_of_perm once perm ?_
    exact .cons (config (by decide)) <| .cons format <| .cons (input (by decide)) <|
      .cons (.flag (by decide)) .nil
  have selected : selection.invocation .flatten = invocation := by decide +kernel
  obtain ⟨read, merged⟩ := read_of_isWritten written "flatten"
  obtain ⟨reread, -⟩ := read_of_isWritten rewritten ""
  rw [selected] at read merged reread
  exact ⟨⟨written, read, merged⟩, rewritten, reread, merged⟩

end Rulebook
