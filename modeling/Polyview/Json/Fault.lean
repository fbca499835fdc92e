import Polyview.Decimal.Shortest
import Polyview.Json.Cursor
import Polyview.Text.Quoted

/-!
# Why a text is no document

Faults of syntax and faults of the data that the syntax describes, each with its wording.
-/

namespace Polyview.Json

/-- What was found where something else was wanted. -/
inductive Found where
  | null
  | boolean (value : Bool)
  | natural (value : Nat)
  /-- A negative integer, by its magnitude. -/
  | negative (value : Nat)
  | floating (value : Float)
  | text (value : String)
  | sequence
  | map

/-- Why a text cannot be read. -/
inductive Cause where
  | endInValue
  | endInList
  | endInObject
  | endInText
  | expectedColon
  | expectedListEnd
  | expectedObjectEnd
  | expectedValue
  | expectedWord
  | keyMustBeText
  | trailingComma
  | trailingCharacters
  | invalidNumber
  | numberOutOfRange
  | invalidEscape
  | controlCharacter
  | endOfHexEscape
  | loneSurrogate
  | nestedTooDeep
  | missingField (name : String)
  | duplicateField (name : String)
  | unknownKind (name : String)
  | kindOutOfRange (number : Nat)
  | wrongType (found : Found) (wanted : String)
  | wrongLength (length : Nat) (wanted : String)

/-- A cause and the place where it was noticed. -/
structure Fault where
  cause : Cause
  position : Position

def Found.message : Found → String
  | .null => "null"
  | .boolean value => "boolean \x60" ++ toString value ++ "\x60"
  | .natural value => "integer \x60" ++ Nat.repr value ++ "\x60"
  | .negative value => "integer \x60-" ++ Nat.repr value ++ "\x60"
  | .floating value => "floating point \x60" ++ Decimal.floatText value ++ "\x60"
  | .text value => "string " ++ String.ofList (Text.quoted value.toList)
  | .sequence => "sequence"
  | .map => "map"

def Cause.message : Cause → String
  | .endInValue => "EOF while parsing a value"
  | .endInList => "EOF while parsing a list"
  | .endInObject => "EOF while parsing an object"
  | .endInText => "EOF while parsing a string"
  | .expectedColon => "expected \x60:\x60"
  | .expectedListEnd => "expected \x60,\x60 or \x60]\x60"
  | .expectedObjectEnd => "expected \x60,\x60 or \x60\x7d\x60"
  | .expectedValue => "expected value"
  | .expectedWord => "expected ident"
  | .keyMustBeText => "key must be a string"
  | .trailingComma => "trailing comma"
  | .trailingCharacters => "trailing characters"
  | .invalidNumber => "invalid number"
  | .numberOutOfRange => "number out of range"
  | .invalidEscape => "invalid escape"
  | .controlCharacter => "control character (\\u0000-\\u001F) found while parsing a string"
  | .endOfHexEscape => "unexpected end of hex escape"
  | .loneSurrogate => "lone leading surrogate in hex escape"
  | .nestedTooDeep => "recursion limit exceeded"
  | .missingField name => "missing field \x60" ++ name ++ "\x60"
  | .duplicateField name => "duplicate field \x60" ++ name ++ "\x60"
  | .unknownKind name =>
      "unknown variant \x60" ++ name ++
        "\x60, expected one of \x60text\x60, \x60text_field\x60, \x60vstack\x60, " ++
        "\x60description\x60"
  | .kindOutOfRange number =>
      "invalid value: integer \x60" ++ Nat.repr number ++
        "\x60, expected variant index 0 <= i < 4"
  | .wrongType found wanted => "invalid type: " ++ found.message ++ ", expected " ++ wanted
  | .wrongLength length wanted =>
      "invalid length " ++ Nat.repr length ++ ", expected " ++ wanted

def Fault.message (fault : Fault) : String :=
  fault.cause.message ++ " at line " ++ Nat.repr fault.position.line ++ " column " ++
    Nat.repr fault.position.column

end Polyview.Json
