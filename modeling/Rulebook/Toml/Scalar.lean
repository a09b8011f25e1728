import Rulebook.Toml.Value

/-! # TOML numbers, dates and times

These are recognised, not evaluated: a value keeps the text that writes it.
-/

namespace Rulebook.Toml

/-- Digits of one kind, with single underscores between them. -/
def isDigits (isDigit : Char → Bool) (text : List Char) : Bool :=
  (text.splitOn '_').all fun part => !part.isEmpty && part.all isDigit

def isHexDigit (c : Char) : Bool :=
  c.isDigit || ('a' ≤ c && c ≤ 'f') || ('A' ≤ c && c ≤ 'F')

/-- The text without one leading sign. -/
def unsigned : List Char → List Char
  | '+' :: rest | '-' :: rest => rest
  | text => text

/-- A decimal number without a sign or useless zeros in front. -/
def isDecimal (text : List Char) : Bool :=
  isDigits Char.isDigit text && (text.head? != some '0' || text.length == 1)

def isInteger : List Char → Bool
  | '0' :: 'x' :: digits => isDigits isHexDigit digits
  | '0' :: 'o' :: digits => isDigits (fun c => '0' ≤ c && c ≤ '7') digits
  | '0' :: 'b' :: digits => isDigits (fun c => c == '0' || c == '1') digits
  | text => isDecimal (unsigned text)

/-- The text in front of the first character of a kind, and the text after it if there is one. -/
def cutAt (isMark : Char → Bool) (text : List Char) : List Char × Option (List Char) :=
  (text.takeWhile fun c => !isMark c, (text.dropWhile fun c => !isMark c).tail?)

def isFloat (text : List Char) : Bool :=
  let magnitude := unsigned text
  if magnitude = "inf".toList || magnitude = "nan".toList then true
  else
    let (mantissa, exponent) := cutAt (fun c => c == 'e' || c == 'E') magnitude
    let (whole, fraction) := cutAt (· == '.') mantissa
    isDecimal whole && (fraction.isSome || exponent.isSome) &&
      fraction.all (isDigits Char.isDigit) &&
      exponent.all fun digits => isDigits Char.isDigit (unsigned digits)

/-! ## Dates and times -/

/-- The number written by exactly `count` digits at the start of a text, and the text after it. -/
def fixed? (count : Nat) (text : List Char) : Option (Nat × List Char) :=
  let digits := text.take count
  if digits.length = count && digits.all Char.isDigit then
    some (digits.foldl (fun value c => value * 10 + (c.toNat - '0'.toNat)) 0, text.drop count)
  else none

/-- The text after a given character. -/
def after? (mark : Char) : List Char → Option (List Char)
  | c :: rest => if c = mark then some rest else none
  | [] => none

def daysIn (year month : Nat) : Nat :=
  if month = 2 then
    if year % 4 = 0 && (year % 100 != 0 || year % 400 = 0) then 29 else 28
  else if month = 4 || month = 6 || month = 9 || month = 11 then 30
  else 31

/-- The text after a date. -/
def afterDate? (text : List Char) : Option (List Char) := do
  let (year, rest) ← fixed? 4 text
  let (month, rest) ← fixed? 2 (← after? '-' rest)
  let (day, rest) ← fixed? 2 (← after? '-' rest)
  if 1 ≤ month ∧ month ≤ 12 ∧ 1 ≤ day ∧ day ≤ daysIn year month then some rest else none

/-- The text after a fraction of a second, if there is one. -/
def afterFraction? (text : List Char) : Option (List Char) :=
  match text with
  | '.' :: rest => if (rest.takeWhile Char.isDigit).isEmpty then none else some (rest.dropWhile Char.isDigit)
  | _ => some text

/-- The text after a time of day. Seconds may be left out. -/
def afterTime? (text : List Char) : Option (List Char) := do
  let (hour, rest) ← fixed? 2 text
  let (minute, rest) ← fixed? 2 (← after? ':' rest)
  if 23 < hour ∨ 59 < minute then none
  match rest with
  | ':' :: rest =>
    let (second, rest) ← fixed? 2 rest
    if 60 < second then none
    afterFraction? rest
  | _ => some rest

/-- The text after an offset from universal time, if there is one. -/
def afterOffset? (text : List Char) : Option (List Char) :=
  match text with
  | 'Z' :: rest | 'z' :: rest => some rest
  | '+' :: rest | '-' :: rest => do
    let (hour, rest) ← fixed? 2 rest
    let (minute, rest) ← fixed? 2 (← after? ':' rest)
    if 23 < hour ∨ 59 < minute then none else some rest
  | _ => some text

def isDateSeparator (c : Char) : Bool :=
  c == 'T' || c == 't' || c == ' '

/-- A date, a time of day, or both with an optional offset. -/
def isMoment (text : List Char) : Bool :=
  match afterDate? text with
  | some [] => true
  | some (separator :: rest) =>
    isDateSeparator separator && (afterTime? rest >>= afterOffset?) == some []
  | none => afterTime? text == some []

/-- The value that a bare word writes. -/
def scalar? (word : List Char) : Option Value :=
  if word = "true".toList then some (.boolean true)
  else if word = "false".toList then some (.boolean false)
  else if isInteger word || isFloat word then some (.number (String.ofList word))
  else if isMoment word then some (.moment (String.ofList word))
  else none

end Rulebook.Toml
