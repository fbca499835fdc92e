/-!
# Quoted strings of a manifest

A value between double quotes in a manifest. Every control character is escaped, most of them by
four upper-case hexadecimal digits.
-/

namespace Polyview.TomlString

/-- A control character: below the space, or from delete to the end of the second control block. -/
def isControl (c : Char) : Bool := c.toNat < 0x20 || (0x7F ≤ c.toNat && c.toNat < 0xA0)

def hexDigit (digit : Nat) : Char :=
  if digit < 10 then Char.ofNat (48 + digit) else Char.ofNat (55 + digit)

def fourHexDigits (number : Nat) : List Char :=
  [hexDigit (number / 4096 % 16), hexDigit (number / 256 % 16), hexDigit (number / 16 % 16),
    hexDigit (number % 16)]

def escapedChar (c : Char) : List Char :=
  if c = '\\' then ['\\', '\\']
  else if c = '"' then ['\\', '"']
  else if c = '\n' then ['\\', 'n']
  else if c = '\r' then ['\\', 'r']
  else if c = '\t' then ['\\', 't']
  else if isControl c then '\\' :: 'u' :: fourHexDigits c.toNat
  else [c]

/-- A text between double quotes. -/
def quote (text : String) : String :=
  String.ofList ('"' :: text.toList.flatMap escapedChar ++ ['"'])

end Polyview.TomlString
