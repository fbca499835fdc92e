import Polyview.Text.Mark
import Polyview.Text.Printable

/-!
# Quoted text for people

Text is shown to a reader between double quotes, with an escape for every character that would be
invisible, would join its neighbour, or would end the quotation.
-/

namespace Polyview.Text

/-- The lower-case hexadecimal digits of a number, without leading zeros. -/
def hexDigits (number : Nat) : List Char := Nat.toDigits 16 number

def quotedChar (c : Char) : List Char :=
  if c = '\x00' then ['\\', '0']
  else if c = '\t' then ['\\', 't']
  else if c = '\r' then ['\\', 'r']
  else if c = '\n' then ['\\', 'n']
  else if c = '"' then ['\\', '"']
  else if c = '\\' then ['\\', '\\']
  else if isExtending c || !isPrintable c then
    ['\\', 'u', '{'] ++ hexDigits c.toNat ++ ['}']
  else [c]

def quoted (text : List Char) : List Char := '"' :: text.flatMap quotedChar ++ ['"']

end Polyview.Text
