import Polyview.Toml.Quantity
import Polyview.Toml.Table
import Polyview.Toml.Text

/-!
# Reading TOML

A text is read line by line. A line defines a table, or puts a value under a key of the table
defined last.
-/

namespace Polyview.Toml

def isKeyChar (c : Char) : Bool := c.isAlphanum || c == '_' || c == '-'

def readKeyPart (text : List Char) : Option (String × List Char) :=
  if text.head? = some '"' ∨ text.head? = some '\x27' then
    (readLineText? text).map fun (key, rest) => (String.ofList key, rest)
  else
    match text.takeWhile isKeyChar with
    | [] => none
    | key => some (String.ofList key, text.dropWhile isKeyChar)

/-- The parts of a key, and the rest, which does not start with a blank. -/
def readKeyParts (fuel : Nat) (text : List Char) : Option (List String × List Char) :=
  match fuel with
  | 0 => none
  | fuel + 1 => do
      let (part, rest) ← readKeyPart (skipBlanks text)
      match skipBlanks rest with
      | '.' :: rest => do
          let (parts, rest) ← readKeyParts fuel rest
          return (part :: parts, rest)
      | rest => return ([part], rest)

/-- How many parts of a key, and how many lists and tables inside one another, are too many. -/
def nestingLimit : Nat := 80

def readKey (text : List Char) : Option (List String × List Char) := do
  let (parts, rest) ← readKeyParts (text.length + 1) text
  if parts.length < nestingLimit then some (parts, rest) else none

def skipComment : List Char → List Char
  | '#' :: rest => rest.dropWhile isPlain
  | text => text

/-- What follows the end of a line, before which only blanks and a comment may stand. -/
def afterLine? (text : List Char) : Option (List Char) :=
  match skipComment (skipBlanks text) with
  | [] => some []
  | text => afterLineEnd? text

/-- A text without the blanks, comments and line ends at its start. -/
def skipGap (fuel : Nat) (text : List Char) : List Char :=
  match fuel with
  | 0 => text
  | fuel + 1 =>
      match afterLineEnd? (skipComment (skipBlanks text)) with
      | some rest => skipGap fuel rest
      | none => skipComment (skipBlanks text)

mutual

/-- A value, and the rest. It may be nested in at most `depth` levels of lists and tables. -/
def readValue (fuel depth : Nat) (text : List Char) : Option (Value × List Char) :=
  match fuel with
  | 0 => none
  | fuel + 1 =>
      match text, depth with
      | '[' :: rest, depth + 1 => do
          let (items, rest) ← readItems fuel depth (skipGap fuel rest)
          return (.list items, rest)
      | '{' :: rest, depth + 1 =>
          match skipBlanks rest with
          | '}' :: rest => some (.table [], rest)
          | rest => do
              let (pairs, rest) ← readPairs fuel depth rest
              let table ← tableOf? pairs
              return (table, rest)
      | 't' :: 'r' :: 'u' :: 'e' :: rest, _ => some (.boolean true, rest)
      | 'f' :: 'a' :: 'l' :: 's' :: 'e' :: rest, _ => some (.boolean false, rest)
      | text, _ =>
          if text.head? = some '"' ∨ text.head? = some '\x27' then
            (readText? text).map fun (text, rest) => (.text (String.ofList text), rest)
          else
            (quantity text).map fun rest => (.quantity, rest)

/-- The items of a list up to its closing bracket, and the rest. -/
def readItems (fuel depth : Nat) (text : List Char) : Option (List Value × List Char) :=
  match fuel, text with
  | 0, _ => none
  | _, ']' :: rest => some ([], rest)
  | fuel + 1, text => do
      let (item, rest) ← readValue fuel depth text
      match skipGap fuel rest with
      | ']' :: rest => return ([item], rest)
      | ',' :: rest => do
          let (items, rest) ← readItems fuel depth (skipGap fuel rest)
          return (item :: items, rest)
      | _ => none

/-- The pairs of keys and values up to the closing brace of their table, and the rest. -/
def readPairs (fuel depth : Nat) (text : List Char) :
    Option (List (List String × Value) × List Char) :=
  match fuel with
  | 0 => none
  | fuel + 1 => do
      let (key, rest) ← readKey text
      match rest with
      | '=' :: rest => do
          let (value, rest) ← readValue fuel depth (skipBlanks rest)
          match skipBlanks rest with
          | '}' :: rest => return ([(key, value)], rest)
          | ',' :: rest => do
              let (pairs, rest) ← readPairs fuel depth rest
              return ((key, value) :: pairs, rest)
          | _ => none
      | _ => none

end

/-- What has been read: the table of the whole text, and the path to the table defined last. -/
structure Progress where
  entries : Entries
  header : List String

/-- A value under a key of the table defined last. -/
def Progress.put (progress : Progress) (key : List String) (value : Value) : Option Progress := do
  let entries ← changeAt .implied (addValue key.dropLast (key.getLast?.getD "") value) .defined
    progress.entries progress.header
  return { progress with entries := entries }

/-- A table defined by a header. -/
def Progress.define (progress : Progress) (header : List String)
    (definition : String → Entries → Option Entries) : Option Progress := do
  let entries ← changeAt .implied (fun _ => definition (header.getLast?.getD "")) .defined
    progress.entries header.dropLast
  return ⟨entries, header⟩

/-- What has been read after one more line, and the lines below it. -/
def readLine (progress : Progress) (text : List Char) : Option (Progress × List Char) := do
  let text := skipBlanks text
  match text with
  | '[' :: '[' :: rest => do
      let (header, rest) ← readKey rest
      match rest with
      | ']' :: ']' :: rest => return (← progress.define header appendTable, ← afterLine? rest)
      | _ => none
  | '[' :: rest => do
      let (header, rest) ← readKey rest
      match rest with
      | ']' :: rest => return (← progress.define header defineTable, ← afterLine? rest)
      | _ => none
  | text =>
      match afterLine? text with
      | some rest => return (progress, rest)
      | none => do
          let (key, rest) ← readKey text
          match rest with
          | '=' :: rest => do
              let (value, rest) ←
                readValue (2 * rest.length + 2) (nestingLimit - 1) (skipBlanks rest)
              return (← progress.put key value, ← afterLine? rest)
          | _ => none

def readAll (fuel : Nat) (progress : Progress) (text : List Char) : Option Progress :=
  match fuel, text with
  | _, [] => some progress
  | 0, _ => none
  | fuel + 1, text => do
      let (progress, rest) ← readLine progress text
      readAll fuel progress rest

def withoutMark : List Char → List Char
  | '\ufeff' :: rest => rest
  | text => text

/-- The members of the table that a text describes. -/
def ofText? (text : String) : Option (List (String × Value)) := do
  let text := withoutMark text.toList
  let progress ← readAll (text.length + 1) ⟨[], []⟩ text
  return Item.toMembers progress.entries

end Polyview.Toml
