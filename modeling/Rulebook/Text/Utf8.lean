/-! # Reading bytes as UTF-8 -/

namespace Rulebook.Text.Utf8

/-- An inclusive range of bytes. -/
structure Range where
  low : UInt8
  high : UInt8
deriving DecidableEq, Repr

def Range.contains (range : Range) (byte : UInt8) : Bool :=
  range.low ≤ byte && byte ≤ range.high

/-- The bytes `80` to `BF`, which only ever continue a sequence. -/
def continuation : Range := ⟨0x80, 0xBF⟩

/-- What has to follow the first byte of a sequence, or nothing if the byte starts none. The first
following byte is narrowed so that no sequence is overlong, a surrogate or above `10FFFF`. -/
def followers (byte : UInt8) : Option (List Range) :=
  if byte ≤ 0x7F then some []
  else if byte < 0xC2 then none
  else if byte ≤ 0xDF then some [continuation]
  else if byte = 0xE0 then some [⟨0xA0, 0xBF⟩, continuation]
  else if byte = 0xED then some [⟨0x80, 0x9F⟩, continuation]
  else if byte ≤ 0xEF then some [continuation, continuation]
  else if byte = 0xF0 then some [⟨0x90, 0xBF⟩, continuation, continuation]
  else if byte ≤ 0xF3 then some [continuation, continuation, continuation]
  else if byte = 0xF4 then some [⟨0x80, 0x8F⟩, continuation, continuation]
  else none

/-- What is wrong with bytes that are not UTF-8. -/
inductive Defect where
  /-- The sequence that starts at `start` breaks off wrongly after `length` bytes. -/
  | invalid (start length : Nat)
  /-- The bytes end inside the sequence that starts at `start`. -/
  | incomplete (start : Nat)
deriving DecidableEq, Repr

/-- Looks for the first defect from `position` on, where the sequence begun at `start` still wants
`pending`. Bytes without a defect are taken to break off at their end. -/
def defectFrom (position start : Nat) : List Range → List UInt8 → Defect
  | [], [] => .incomplete position
  | _ :: _, [] => .incomplete start
  | [], byte :: rest =>
    match followers byte with
    | none => .invalid position 1
    | some pending => defectFrom (position + 1) position pending rest
  | range :: pending, byte :: rest =>
    if range.contains byte then defectFrom (position + 1) start pending rest
    else .invalid start (position - start)

/-- The first defect of bytes that have one. -/
def defect (bytes : ByteArray) : Defect :=
  defectFrom 0 0 [] bytes.data.toList

/-- The payload bits of the first byte of a sequence with `count` further bytes. -/
def leadBits (byte : UInt8) : (count : Nat) → Nat
  | 0 => byte.toNat
  | 1 => byte.toNat % 0x20
  | 2 => byte.toNat % 0x10
  | _ => byte.toNat % 0x08

/-- Decodes with repairs: `value` holds the bits read of a sequence that still wants `pending`. -/
def repairFrom (value : Nat) : List Range → List UInt8 → List Char
  | [], [] => []
  | _ :: _, [] => ['\uFFFD']
  | [], byte :: rest => begin byte rest
  | range :: pending, byte :: rest =>
    if range.contains byte then
      let grown := value * 0x40 + byte.toNat % 0x40
      match pending with
      | [] => Char.ofNat grown :: repairFrom 0 [] rest
      | _ => repairFrom grown pending rest
    else '\uFFFD' :: begin byte rest
where
  /-- Starts a new sequence. -/
  begin (byte : UInt8) (rest : List UInt8) : List Char :=
    match followers byte with
    | none => '\uFFFD' :: repairFrom 0 [] rest
    | some [] => Char.ofNat byte.toNat :: repairFrom 0 [] rest
    | some pending => repairFrom (leadBits byte pending.length) pending rest

/-- The text of the bytes, with one replacement character for each broken sequence. -/
def repaired (bytes : ByteArray) : String :=
  String.ofList (repairFrom 0 [] bytes.data.toList)

def encode (text : String) : ByteArray :=
  text.toByteArray

/-- The text that the bytes encode, or what is wrong with them. -/
def decode (bytes : ByteArray) : Except Defect String :=
  match String.fromUTF8? bytes with
  | some text => .ok text
  | none => .error (defect bytes)

theorem fromUTF8?_eq_some_iff {bytes : ByteArray} {text : String} :
    String.fromUTF8? bytes = some text ↔ bytes = encode text := by
  constructor
  · intro h
    simp only [String.fromUTF8?] at h
    split at h
    · cases h
      rfl
    · cases h
  · rintro rfl
    simp [encode, String.fromUTF8?, text.isValidUTF8, String.fromUTF8]

theorem decode_eq_ok_iff {bytes : ByteArray} {text : String} :
    decode bytes = .ok text ↔ bytes = encode text := by
  rw [← fromUTF8?_eq_some_iff, decode]
  split <;> simp_all

/-- The valid bytes are those that encode a text. -/
theorem isValidUTF8_iff_exists_encode {bytes : ByteArray} :
    bytes.IsValidUTF8 ↔ ∃ text, bytes = encode text := by
  constructor
  · intro valid
    exact ⟨String.fromUTF8 bytes valid, rfl⟩
  · rintro ⟨text, rfl⟩
    exact text.isValidUTF8

theorem decode_of_not_isValidUTF8 {bytes : ByteArray} (h : ¬bytes.IsValidUTF8) :
    decode bytes = .error (defect bytes) := by
  simp [decode, String.fromUTF8?, h]

@[simp] theorem decode_encode (text : String) : decode (encode text) = .ok text :=
  decode_eq_ok_iff.2 rfl

end Rulebook.Text.Utf8
