import Polyview.Json.Value

/-!
# Writing JSON

A value is written without any blanks, or with one item or member on each line.
-/

namespace Polyview.Json

def lowerHexDigit (digit : Nat) : Char :=
  if digit < 10 then Char.ofNat (48 + digit) else Char.ofNat (87 + digit)

def writtenChar (c : Char) : List Char :=
  if c = '"' then ['\\', '"']
  else if c = '\\' then ['\\', '\\']
  else if c = '\x08' then ['\\', 'b']
  else if c = '\x0c' then ['\\', 'f']
  else if c = '\n' then ['\\', 'n']
  else if c = '\r' then ['\\', 'r']
  else if c = '\t' then ['\\', 't']
  else if c.toNat < 0x20 then
    ['\\', 'u', '0', '0', lowerHexDigit (c.toNat / 16), lowerHexDigit (c.toNat % 16)]
  else [c]

/-- A text between double quotes. -/
def writtenText (text : String) : List Char := '"' :: text.toList.flatMap writtenChar ++ ['"']

def writtenNumber : Number → List Char
  | .natural value => (Nat.repr value).toList
  | .negative value => '-' :: (Nat.repr value).toList
  | .floating value => (Decimal.floatText value).toList

namespace Value

mutual

def compactChars : Value → List Char
  | .null => ['n', 'u', 'l', 'l']
  | .boolean true => ['t', 'r', 'u', 'e']
  | .boolean false => ['f', 'a', 'l', 's', 'e']
  | .number value => writtenNumber value
  | .text value => writtenText value
  | .list items => '[' :: compactItems items ++ [']']
  | .object members => '{' :: compactMembers members ++ ['}']

def compactItems : List Value → List Char
  | [] => []
  | [item] => item.compactChars
  | item :: rest => item.compactChars ++ ',' :: compactItems rest

/-- The members of an object, with commas between them. -/
def compactMembers : List (String × Value) → List Char
  | [] => []
  | [(name, value)] => writtenText name ++ ':' :: value.compactChars
  | (name, value) :: rest =>
      writtenText name ++ ':' :: value.compactChars ++ ',' :: compactMembers rest

end

/-- A line feed and two spaces for each level. -/
def newLine (level : Nat) : List Char := '\n' :: List.replicate (2 * level) ' '

mutual

/-- A value with its items and members on lines of their own, one level deeper than `level`. -/
def prettyChars (level : Nat) : Value → List Char
  | .null => ['n', 'u', 'l', 'l']
  | .boolean true => ['t', 'r', 'u', 'e']
  | .boolean false => ['f', 'a', 'l', 's', 'e']
  | .number value => writtenNumber value
  | .text value => writtenText value
  | .list [] => ['[', ']']
  | .list (item :: rest) =>
      '[' :: newLine (level + 1) ++ prettyItems (level + 1) (item :: rest) ++ newLine level ++ [']']
  | .object [] => ['{', '}']
  | .object (member :: rest) =>
      '{' :: newLine (level + 1) ++ prettyMembers (level + 1) (member :: rest) ++
        newLine level ++ ['}']

def prettyItems (level : Nat) : List Value → List Char
  | [] => []
  | [item] => item.prettyChars level
  | item :: rest =>
      item.prettyChars level ++ ',' :: newLine level ++ prettyItems level rest

def prettyMembers (level : Nat) : List (String × Value) → List Char
  | [] => []
  | [(name, value)] => writtenText name ++ ':' :: ' ' :: value.prettyChars level
  | (name, value) :: rest =>
      writtenText name ++ ':' :: ' ' :: value.prettyChars level ++ ',' :: newLine level ++
        prettyMembers level rest

end

/-- A value without blanks. -/
def compact (value : Value) : String := String.ofList value.compactChars

/-- A value laid out for people. -/
def pretty (value : Value) : String := String.ofList (value.prettyChars 0)

end Value

end Polyview.Json
