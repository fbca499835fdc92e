/-!
# Values in markup

Two places of a markup attribute take a value. A plain attribute writes five characters as entities
and guards a leading brace, which would otherwise start a markup extension. Inside a binding
extension the braces and the comma are marked by a backslash instead.
-/

namespace Polyview.Markup

/-- A character as an entity, where markup has a meaning of its own for it. -/
def entityChar (c : Char) : List Char :=
  if c = '&' then ['&', 'a', 'm', 'p', ';']
  else if c = '<' then ['&', 'l', 't', ';']
  else if c = '>' then ['&', 'g', 't', ';']
  else if c = '"' then ['&', 'q', 'u', 'o', 't', ';']
  else if c = '\x27' then ['&', 'a', 'p', 'o', 's', ';']
  else [c]

def entities (text : List Char) : List Char := text.flatMap entityChar

/-- The empty braces that keep a leading brace from starting a markup extension. -/
def guard (text : List Char) : List Char :=
  if text.head? = some '{' then ['{', '}'] else []

/-- The characters that a binding extension gives a meaning to. -/
def isExtensionMark (c : Char) : Bool := c == '{' || c == '}' || c == ','

def pathChar (c : Char) : List Char :=
  if isExtensionMark c then ['\\', c] else entityChar c

/-- The text of an attribute with the given value. -/
def attributeText (value : String) : String :=
  String.ofList (guard value.toList ++ entities value.toList)

/-- The text of a binding path with the given value. -/
def pathText (value : String) : String :=
  String.ofList (value.toList.flatMap pathChar)

end Polyview.Markup
