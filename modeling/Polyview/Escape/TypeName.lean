import Polyview.Text.Letter
import Polyview.Text.WordCase

/-!
# Type names

An application name becomes the name of a type in generated code. A name that is an identifier
already stays; any other is cut into words at everything that is neither a letter nor a number.
-/

namespace Polyview.TypeName

open Text

/-- An identifier starts with a letter or a low line and goes on with letters, numbers and low
lines. -/
def isIdentifier : List Char → Bool
  | [] => false
  | c :: rest => (isAlphabetic c || c == '_') && (c :: rest).all isNameChar

/-- A name with a space for each character that no identifier can hold. -/
def spaced (name : List Char) : List Char :=
  name.map (fun c => if isAlphanumeric c then c else ' ')

/-- A low line before a name that does not start with a letter. -/
def anchored : List Char → List Char
  | [] => ['_']
  | c :: rest => if isAlphabetic c then c :: rest else '_' :: c :: rest

def identifier (name : List Char) : List Char :=
  if isIdentifier name then name else anchored (pascalCase (spaced name))

/-- The type name for an application name. -/
def ofName (name : String) : String := String.ofList (identifier name.toList)

end Polyview.TypeName
