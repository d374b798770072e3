import GraphSelect.Text.Shapeless

/-!
# Quoted text

Two ways to write a text between double quotes. `quoted` is the string of a JSON
document: only the quote, the backslash and the controls are escaped. `shown` is
the form for messages and logs: there a character without a shape of its own is
written as its code too, so that a reader sees what is in the text.
-/

set_option autoImplicit false

namespace GraphSelect
namespace Text

/-- The character of a digit below sixteen, in lower case. -/
def hexDigit (digit : Nat) : Char :=
  if digit < 10 then Char.ofNat (48 + digit) else Char.ofNat (87 + digit)

/-- A character as it stands in a JSON string. -/
def escaped (c : Char) : List Char :=
  if c = '"' then ['\\', '"']
  else if c = '\\' then ['\\', '\\']
  else if c = '\x08' then ['\\', 'b']
  else if c = '\x0c' then ['\\', 'f']
  else if c = '\n' then ['\\', 'n']
  else if c = '\r' then ['\\', 'r']
  else if c = '\t' then ['\\', 't']
  else if c.toNat < 0x20 then
    ['\\', 'u', '0', '0', hexDigit (c.toNat / 16), hexDigit (c.toNat % 16)]
  else [c]

/-- A text as a JSON string. -/
def quoted (text : String) : String :=
  .ofList ('"' :: text.toList.flatMap escaped ++ ['"'])

/-- A character as it stands in a message. -/
def visible (c : Char) : List Char :=
  if c = '\x00' then ['\\', '0']
  else if c = '\t' then ['\\', 't']
  else if c = '\r' then ['\\', 'r']
  else if c = '\n' then ['\\', 'n']
  else if c = '\\' then ['\\', '\\']
  else if c = '"' then ['\\', '"']
  else if isShapeless c then
    ['\\', 'u', '{'] ++ Nat.toDigits 16 c.toNat ++ ['}']
  else [c]

/-- A text as it is shown in messages and logs. -/
def shown (text : String) : String :=
  .ofList ('"' :: text.toList.flatMap visible ++ ['"'])

end Text
end GraphSelect
