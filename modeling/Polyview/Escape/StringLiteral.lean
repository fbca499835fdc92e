/-!
# String literals

A value that stands between double quotes in generated source code. A backslash introduces each
character that would end the literal, and each that would break the line.
-/

namespace Polyview.StringLiteral

/-- Whether a character cannot stand in a literal as it is. -/
def isSpecial (c : Char) : Bool := ['\\', '"', '\n', '\r', '\t'].contains c

def escapedChar (c : Char) : List Char :=
  if c = '\\' then ['\\', '\\']
  else if c = '"' then ['\\', '"']
  else if c = '\n' then ['\\', 'n']
  else if c = '\r' then ['\\', 'r']
  else if c = '\t' then ['\\', 't']
  else [c]

def escaped (text : List Char) : List Char := text.flatMap escapedChar

/-- The body of the literal for a text. A text without special characters is kept as it is. -/
def escape (text : String) : String :=
  if text.toList.any isSpecial then String.ofList (escaped text.toList) else text

end Polyview.StringLiteral
