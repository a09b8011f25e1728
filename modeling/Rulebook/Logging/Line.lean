import Rulebook.Event
import Rulebook.Logging.Format

/-! # Log lines -/

namespace Rulebook

namespace LogFormat

/-- A character as it stands in a compact line. Those that can steer a terminal are spelled out. -/
def compactChar (c : Char) : List Char :=
  if c == '\x07' || c == '\x08' || c == '\x0C' || c == '\x1B' || c == '\x7F' then
    ['\\', 'x', Nat.digitChar (c.toNat / 16), Nat.digitChar (c.toNat % 16)]
  else if 0x80 ≤ c.toNat && c.toNat ≤ 0x9F then Text.codePointEscape c
  else [c]

/-- The message of an event as the reader of a log gets it. -/
def text (format : LogFormat) (event : Event) : String :=
  match format with
  | compact => String.ofList (event.message.toList.flatMap compactChar)
  | json => event.message

/-- A character as it stands in a JSON string. -/
def jsonChar (c : Char) : List Char :=
  if c == '"' then ['\\', '"']
  else if c == '\\' then ['\\', '\\']
  else if c == '\x08' then ['\\', 'b']
  else if c == '\x0C' then ['\\', 'f']
  else if c == '\n' then ['\\', 'n']
  else if c == '\r' then ['\\', 'r']
  else if c == '\t' then ['\\', 't']
  else if c.toNat < 0x20 then
    ['\\', 'u', '0', '0'] ++ [Nat.digitChar (c.toNat / 16), Nat.digitChar (c.toNat % 16)]
  else [c]

/-- An event as one line of the log. -/
def line (format : LogFormat) (event : Event) : String :=
  match format with
  | compact => event.level.name ++ " " ++ format.text event
  | json =>
    "\x7b\"level\":\"" ++ event.level.name ++ "\",\"fields\":\x7b\"message\":\"" ++
      String.ofList ((format.text event).toList.flatMap jsonChar) ++ "\"\x7d\x7d"

end LogFormat

end Rulebook
