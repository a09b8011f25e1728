import Rulebook.Toml.Quoted
import Rulebook.Toml.Scalar

/-! # Reading TOML

Every function takes the text from some place on and returns what it has read there together with
the text that is left, or nothing if the text is not TOML. A `fuel` bounds the number of steps: each
step of the outermost loops takes at least one character, so twice the length of the text is enough.
-/

namespace Rulebook.Toml

/-! ## Blank text -/

/-- Skips spaces, line breaks and comments. -/
def skipBlank (inComment : Bool) : List Char → Option (List Char)
  | [] => some []
  | '\n' :: rest => skipBlank false rest
  | '\r' :: '\n' :: rest => skipBlank false rest
  | c :: rest =>
    if inComment then if isControl c then none else skipBlank true rest
    else if isSpace c then skipBlank false rest
    else if c = '#' then skipBlank true rest
    else some (c :: rest)

def skipSpaces (text : List Char) : List Char :=
  text.dropWhile isSpace

/-- Goes past the end of a line that holds nothing more but a comment. -/
def finishLine (inComment : Bool) : List Char → Option (List Char)
  | [] => some []
  | '\n' :: rest => some rest
  | '\r' :: '\n' :: rest => some rest
  | c :: rest =>
    if inComment then if isControl c then none else finishLine true rest
    else if isSpace c then finishLine false rest
    else if c = '#' then finishLine true rest
    else none

/-! ## Keys -/

def isBareKey (c : Char) : Bool :=
  c.isAlphanum || c == '-' || c == '_'

def key? (text : List Char) : Option (String × List Char) :=
  match text with
  | '"' :: rest => (basic rest).map fun result => (String.ofList result.1, result.2)
  | '\'' :: rest => (literal rest).map fun result => (String.ofList result.1, result.2)
  | _ =>
    let word := text.takeWhile isBareKey
    if word.isEmpty then none else some (String.ofList word, text.dropWhile isBareKey)

/-- A dotted key: the keys before the last one, and the last one. Spaces may stand around the dots
and after it. -/
def keys? : (fuel : Nat) → List Char → Option ((List String × String) × List Char)
  | 0, _ => none
  | fuel + 1, text => do
    let (key, rest) ← key? text
    match skipSpaces rest with
    | '.' :: rest =>
      let ((path, last), rest) ← keys? fuel (skipSpaces rest)
      some ((key :: path, last), rest)
    | rest => some (([], key), rest)

/-! ## Values -/

/-- A character of a number, a date, a time or a word. -/
def isWordChar (c : Char) : Bool :=
  c.isAlphanum || c == '+' || c == '-' || c == '_' || c == '.' || c == ':'

/-- The word at the start of a text. A date may go on with a time after one space. -/
def word (text : List Char) : List Char × List Char :=
  let first := text.takeWhile isWordChar
  let rest := text.dropWhile isWordChar
  match rest with
  | ' ' :: digit :: more =>
    if afterDate? first == some [] && digit.isDigit then
      let second := (digit :: more).takeWhile isWordChar
      (first ++ ' ' :: second, (digit :: more).dropWhile isWordChar)
    else (first, rest)
  | _ => (first, rest)

/-- How many brackets and braces may be open at once in a value. -/
def maxNesting : Nat := 80

mutual

/-- A value in which `nesting` more brackets and braces may be opened. -/
def value? : (fuel nesting : Nat) → List Char → Option (Value × List Char)
  | 0, _, _ => none
  | fuel + 1, nesting, text =>
    match text, nesting with
    | '[' :: _, 0 => none
    | '[' :: rest, nesting + 1 =>
      (items? fuel nesting rest).map fun result => (.array false result.1, result.2)
    | '\x7b' :: _, 0 => none
    | '\x7b' :: rest, nesting + 1 =>
      (pairs? fuel nesting [] rest).map fun result => (.table .inline result.1, result.2)
    | '"' :: _, _ | '\'' :: _, _ =>
      (string? text).map fun result => (.string (String.ofList result.1), result.2)
    | _, _ =>
      let (word, rest) := word text
      (scalar? word).map fun value => (value, rest)

/-- The items of an array up to its closing bracket. -/
def items? : (fuel nesting : Nat) → List Char → Option (List Value × List Char)
  | 0, _, _ => none
  | fuel + 1, nesting, text => do
    match ← skipBlank false text with
    | ']' :: rest => some ([], rest)
    | text =>
      let (value, rest) ← value? fuel nesting text
      match ← skipBlank false rest with
      | ']' :: rest => some ([value], rest)
      | ',' :: rest =>
        let (values, rest) ← items? fuel nesting rest
        some (value :: values, rest)
      | _ => none

/-- The entries of a table between braces, up to the closing one. -/
def pairs? : (fuel nesting : Nat) → Table → List Char → Option (Table × List Char)
  | 0, _, _, _ => none
  | fuel + 1, nesting, table, text => do
    match ← skipBlank false text with
    | '\x7d' :: rest => some (table, rest)
    | text =>
      let ((path, key), rest) ← keys? text.length text
      let '=' :: rest := rest | none
      let (value, rest) ← value? fuel nesting (skipSpaces rest)
      let table ← table.set path key value
      match ← skipBlank false rest with
      | '\x7d' :: rest => some (table, rest)
      | ',' :: rest => pairs? fuel nesting table rest
      | _ => none

end

/-! ## Documents -/

inductive Statement where
  /-- A table header: its keys before the last one, and the last one. -/
  | header (path : List String) (key : String)
  /-- A header in double brackets. -/
  | itemHeader (path : List String) (key : String)
  | pair (path : List String) (key : String) (value : Value)

/-- A statement at the start of a text that does not start with blank text. -/
def statement? (text : List Char) : Option (Statement × List Char) :=
  match text with
  | '[' :: '[' :: rest => do
    let ((path, key), rest) ← keys? text.length (skipSpaces rest)
    let ']' :: ']' :: rest := rest | none
    some (.itemHeader path key, rest)
  | '[' :: rest => do
    let ((path, key), rest) ← keys? text.length (skipSpaces rest)
    let ']' :: rest := rest | none
    some (.header path key, rest)
  | _ => do
    let ((path, key), rest) ← keys? text.length text
    let '=' :: rest := rest | none
    let (value, rest) ← value? (2 * text.length + 2) maxNesting (skipSpaces rest)
    some (.pair path key value, rest)

/-- All statements. Each one has its line to itself. -/
def statements? : (fuel : Nat) → List Char → Option (List Statement)
  | 0, _ => none
  | fuel + 1, text => do
    match ← skipBlank false text with
    | [] => some []
    | text =>
      let (statement, rest) ← statement? text
      let statements ← statements? fuel (← finishLine false rest)
      some (statement :: statements)

/-- Adds statements to a table. Pairs go into the table of the last header, whose keys are `place`. -/
def assemble? (root : Table) (place : List String) : List Statement → Option Table
  | [] => some root
  | .header path key :: rest => do
    assemble? (← root.visit path (Table.openTable key)) (path ++ [key]) rest
  | .itemHeader path key :: rest => do
    assemble? (← root.visit path (Table.openItem key)) (path ++ [key]) rest
  | .pair path key value :: rest => do
    assemble? (← root.visit place fun table => table.set path key value) place rest

/-- The text without a byte order mark in front. -/
def dropByteOrderMark : List Char → List Char
  | '\uFEFF' :: rest => rest
  | text => text

/-- The table that a TOML text writes. -/
def read? (content : String) : Option Table := do
  let text := dropByteOrderMark content.toList
  let statements ← statements? (text.length + 1) text
  assemble? [] [] statements

end Rulebook.Toml
