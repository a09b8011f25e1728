/-! # TOML strings -/

namespace Rulebook.Toml

/-- Control characters other than the tab stand in no string and no comment. -/
def isControl (c : Char) : Bool :=
  (c.toNat < 0x20 && c != '\t') || c.toNat == 0x7F

def isSpace (c : Char) : Bool :=
  c == ' ' || c == '\t'

/-- The text after a line break. -/
def afterNewline? : List Char → Option (List Char)
  | '\n' :: rest => some rest
  | '\r' :: '\n' :: rest => some rest
  | _ => none

/-! ## Escapes -/

def hexDigit? (c : Char) : Option Nat :=
  if '0' ≤ c ∧ c ≤ '9' then some (c.toNat - '0'.toNat)
  else if 'a' ≤ c ∧ c ≤ 'f' then some (c.toNat - 'a'.toNat + 10)
  else if 'A' ≤ c ∧ c ≤ 'F' then some (c.toNat - 'A'.toNat + 10)
  else none

/-- The number that hexadecimal digits write, continuing from `value`. -/
def hexNumber? (value : Nat) : List Char → Option Nat
  | [] => some value
  | c :: rest =>
    match hexDigit? c with
    | some digit => hexNumber? (value * 16 + digit) rest
    | none => none

/-- The character whose code point is written with exactly `count` digits. -/
def codePoint? (count : Nat) (text : List Char) : Option Char :=
  if text.length < count then none
  else
    match hexNumber? 0 (text.take count) with
    | some value => if value.isValidChar then some (Char.ofNat value) else none
    | none => none

/-- The character that an escape stands for, read after its backslash, and how many characters the
escape takes there. -/
def escape? : List Char → Option (Char × Nat)
  | 'b' :: _ => some ('\x08', 1)
  | 't' :: _ => some ('\t', 1)
  | 'n' :: _ => some ('\n', 1)
  | 'f' :: _ => some ('\x0C', 1)
  | 'r' :: _ => some ('\r', 1)
  | 'e' :: _ => some ('\x1B', 1)
  | '"' :: _ => some ('"', 1)
  | '\\' :: _ => some ('\\', 1)
  | 'x' :: rest => (codePoint? 2 rest).map fun c => (c, 3)
  | 'u' :: rest => (codePoint? 4 rest).map fun c => (c, 5)
  | 'U' :: rest => (codePoint? 8 rest).map fun c => (c, 9)
  | _ => none

/-! ## The four kinds of strings

Each function reads on after the opening quotes and returns what the string holds and the text after
its closing quotes.
-/

def push (c : Char) (read : Option (List Char × List Char)) : Option (List Char × List Char) :=
  read.map fun result => (c :: result.1, result.2)

def literal : List Char → Option (List Char × List Char)
  | [] => none
  | '\'' :: rest => some ([], rest)
  | c :: rest => if isControl c then none else push c (literal rest)

def basic (text : List Char) : Option (List Char × List Char) :=
  match text with
  | [] => none
  | '"' :: rest => some ([], rest)
  | '\\' :: rest =>
    match escape? rest with
    | some (c, count) => push c (basic (rest.drop count))
    | none => none
  | c :: rest => if isControl c then none else push c (basic rest)
termination_by text.length
decreasing_by all_goals simp only [List.length_cons, List.length_drop]; omega

/-- Three quotes close a string over several lines. One or two more directly after them belong to
the string, so they are taken to come first. -/
def closing (quote : Char) (rest : List Char) : Option (List Char × List Char) :=
  let extra := rest.takeWhile (· == quote)
  if extra.length ≤ 2 then some (extra, rest.drop extra.length) else none

def literalLines : List Char → Option (List Char × List Char)
  | [] => none
  | '\'' :: '\'' :: '\'' :: rest => closing '\'' rest
  | '\n' :: rest => push '\n' (literalLines rest)
  | '\r' :: '\n' :: rest => push '\r' (push '\n' (literalLines rest))
  | c :: rest => if isControl c then none else push c (literalLines rest)

/-- The text after a backslash that ends its line: all blank text up to the next line that holds
something is left out. -/
def continuation? (text : List Char) : Option (List Char) :=
  (afterNewline? (text.dropWhile isSpace)).map fun rest => skip rest
where
  skip : List Char → List Char
    | '\r' :: '\n' :: rest => skip rest
    | c :: rest => if isSpace c || c == '\n' then skip rest else c :: rest
    | [] => []

theorem length_continuation_skip (text : List Char) :
    (continuation?.skip text).length ≤ text.length := by
  fun_induction continuation?.skip text <;> simp_all <;> omega

theorem length_afterNewline {text rest : List Char} (h : afterNewline? text = some rest) :
    rest.length < text.length := by
  unfold afterNewline? at h
  split at h
  · cases h
    simp
  · cases h
    simp only [List.length_cons]
    omega
  · cases h

theorem length_dropWhile_le (p : Char → Bool) (text : List Char) :
    (text.dropWhile p).length ≤ text.length :=
  (List.dropWhile_suffix p).length_le

theorem length_continuation {text rest : List Char} (h : continuation? text = some rest) :
    rest.length < text.length := by
  simp only [continuation?, Option.map_eq_some_iff] at h
  obtain ⟨line, found, rfl⟩ := h
  have start := length_dropWhile_le isSpace text
  have next := length_afterNewline found
  have skipped := length_continuation_skip line
  omega

def basicLines (text : List Char) : Option (List Char × List Char) :=
  match text with
  | [] => none
  | '"' :: '"' :: '"' :: rest => closing '"' rest
  | '\\' :: rest =>
    match _found : continuation? rest with
    | some next => basicLines next
    | none =>
      match escape? rest with
      | some (c, count) => push c (basicLines (rest.drop count))
      | none => none
  | '\n' :: rest => push '\n' (basicLines rest)
  | '\r' :: '\n' :: rest => push '\r' (push '\n' (basicLines rest))
  | c :: rest => if isControl c then none else push c (basicLines rest)
termination_by text.length
decreasing_by
  · have := length_continuation _found
    simp only [List.length_cons]
    omega
  all_goals simp only [List.length_cons, List.length_drop]; omega

/-- A line break directly after three opening quotes is not part of the string. -/
def afterOpening (text : List Char) : List Char :=
  (afterNewline? text).getD text

/-- A string of any kind. -/
def string? : List Char → Option (List Char × List Char)
  | '"' :: '"' :: '"' :: rest => basicLines (afterOpening rest)
  | '"' :: rest => basic rest
  | '\'' :: '\'' :: '\'' :: rest => literalLines (afterOpening rest)
  | '\'' :: rest => literal rest
  | _ => none

end Rulebook.Toml
