import Polyview.Document.Decoding
import Polyview.Json.Reader

/-!
# Reading documents

A document is an object with `state` and `root`, or a list of the two. The table of texts is checked
while it is read. The root is first read as a whole, apart from its kind, and then decoded, so a
fault in what it says is reported at the place that the reading has reached.
-/

namespace Polyview.Document

open Json

/-- A fault, or a cause whose place is found once the list or object around it has been left. -/
inductive Raised where
  | fault (fault : Fault)
  | loose (cause : Cause) (cursor : Cursor)

/-- A result whose faults have their place. -/
def placed {α : Type} (result : Except Fault α) : Except Raised α :=
  result.mapError .fault

/-- The place that is reached on leaving an object: after its brace if that comes next. -/
def placeAfterObject (cursor : Cursor) : Position :=
  let cursor := cursor.skipGap
  if cursor.rest.head? = some '}' then (cursor.skip 1).position else cursor.position

/-- The place that is reached on leaving a list: after its bracket, or after a comma and blanks. -/
def placeAfterList (cursor : Cursor) : Position :=
  let cursor := cursor.skipGap
  if cursor.rest.head? = some ']' then (cursor.skip 1).position
  else if cursor.rest.head? = some ',' then (cursor.skip 1).skipGap.position
  else cursor.position

/-- A result whose loose causes get the place that is reached on leaving what is around them. -/
def settled {α : Type} (place : Cursor → Position) (result : Except Raised α) : Except Fault α :=
  match result with
  | .ok value => .ok value
  | .error (.fault fault) => .error fault
  | .error (.loose cause cursor) => .error ⟨cause, place cursor⟩

/-- What stands at a cursor where something else was wanted. Lists and objects are not entered. -/
def findAt (cursor : Cursor) : Except Fault (Found × Cursor) :=
  match cursor.rest with
  | [] => .error ⟨.endInValue, cursor.position⟩
  | c :: _ =>
      if c = 'n' then do
        return (.null, ← readWord ['u', 'l', 'l'] (cursor.skip 1))
      else if c = 't' then do
        return (.boolean true, ← readWord ['r', 'u', 'e'] (cursor.skip 1))
      else if c = 'f' then do
        return (.boolean false, ← readWord ['a', 'l', 's', 'e'] (cursor.skip 1))
      else if c = '-' then do
        let (number, cursor) ← readNumber true (cursor.skip 1)
        return (number.found, cursor)
      else if c.isDigit then do
        let (number, cursor) ← readNumber false cursor
        return (number.found, cursor)
      else if c = '"' then do
        let (text, cursor) ← readText (cursor.skip 1)
        return (.text text, cursor)
      else if c = '[' then .ok (.sequence, cursor)
      else if c = '{' then .ok (.map, cursor)
      else .error ⟨.expectedValue, cursor.ahead⟩

/-- The fault of something at a cursor that is not what was wanted. -/
def refuse {α : Type} (cursor : Cursor) (wanted : String) : Except Fault α := do
  let (found, cursor) ← findAt cursor
  throw ⟨.wrongType found wanted, cursor.position⟩

def readPlainText (cursor : Cursor) : Except Fault (String × Cursor) :=
  let cursor := cursor.skipGap
  if cursor.rest.head? = some '"' then readText (cursor.skip 1) else refuse cursor "a string"

/-- The rest of a table of texts, up to and with its closing brace. -/
def readEntries (fuel : Nat) (isFirst : Bool) (table : TextTable) (cursor : Cursor) :
    Except Fault (TextTable × Cursor) :=
  match fuel with
  | 0 => .error ⟨.endInObject, cursor.position⟩
  | fuel + 1 => do
      match ← nextName? isFirst cursor with
      | none => return (table, cursor.skipGap.skip 1)
      | some (name, cursor) =>
          let (text, cursor) ← readPlainText (← readColon cursor)
          readEntries fuel false (table.insert name text) cursor

def readState (cursor : Cursor) : Except Fault (TextTable × Cursor) :=
  let cursor := cursor.skipGap
  if cursor.rest.head? = some '{' then
    readEntries (stepsFor cursor) true .empty (cursor.skip 1)
  else
    refuse cursor "a map"

def readKind (cursor : Cursor) : Except Fault (NodeKind × Cursor) :=
  let cursor := cursor.skipGap
  if cursor.rest.head? = some '"' then do
    let (word, cursor) ← readText (cursor.skip 1)
    match NodeKind.ofWord word with
    | .ok kind => return (kind, cursor)
    | .error cause => throw ⟨cause, cursor.position⟩
  else
    refuse cursor "variant identifier"

/-- The members of the root, up to its closing brace, and its kind, which stands among them. -/
def readRootMembers (fuel depth : Nat) (isFirst : Bool) (kind : Option NodeKind)
    (cursor : Cursor) : Except Raised (NodeKind × List (String × Value) × Cursor) :=
  match fuel with
  | 0 => .error (.fault ⟨.endInObject, cursor.position⟩)
  | fuel + 1 => do
      match ← placed (nextName? isFirst cursor) with
      | none =>
          match kind with
          | none => throw (.loose (.missingField "type") cursor)
          | some kind => return (kind, [], cursor.skipGap.skip 1)
      | some (name, cursor) =>
          if name = "type" then
            if kind.isSome then
              throw (.loose (.duplicateField "type") cursor)
            else
              let (kind, cursor) ← placed (do readKind (← readColon cursor))
              readRootMembers fuel depth false (some kind) cursor
          else
            let (value, cursor) ← placed (do readValue depth (← readColon cursor))
            let (kind, members, cursor) ← readRootMembers fuel depth false kind cursor
            return (kind, (name, value) :: members, cursor)

/-- The items of the root, up to and with its closing bracket. The first one is its kind. -/
def readRootItems (depth : Nat) (cursor : Cursor) :
    Except Raised (NodeKind × List Value × Cursor) := do
  match ← placed (nextItem? true cursor) with
  | none => throw (.loose (.missingField "type") cursor)
  | some cursor =>
      let (kind, cursor) ← placed (readKind cursor)
      let (items, cursor) ← placed (readItems (stepsFor cursor) depth false cursor)
      return (kind, items, cursor)

/-- The root at a cursor, where `depth` more lists and objects may be opened. -/
def readRoot (depth : Nat) (cursor : Cursor) : Except Raised (Node × Cursor) :=
  let cursor := cursor.skipGap
  if cursor.rest.head? = some '{' then
    match depth with
    | 0 => .error (.fault ⟨.nestedTooDeep, cursor.ahead⟩)
    | depth + 1 => do
        let (kind, members, cursor) ← placed (settled placeAfterObject
          (readRootMembers (stepsFor cursor) depth true none (cursor.skip 1)))
        match Node.ofMembers kind members with
        | .ok node => return (node, cursor)
        | .error cause => throw (.loose cause cursor)
  else if cursor.rest.head? = some '[' then
    match depth with
    | 0 => .error (.fault ⟨.nestedTooDeep, cursor.ahead⟩)
    | depth + 1 => do
        let (kind, items, cursor) ← placed (settled placeAfterList
          (readRootItems depth (cursor.skip 1)))
        match Node.ofItems kind items with
        | .ok node => return (node, cursor)
        | .error cause => throw (.loose cause cursor)
  else
    placed (refuse cursor "internally tagged enum ViewSpec")

/-- The rest of a document written as an object, up to and with its closing brace. -/
def readDocumentMembers (fuel depth : Nat) (isFirst : Bool) (state : Option TextTable)
    (root : Option Node) (cursor : Cursor) : Except Raised (Document × Cursor) :=
  match fuel with
  | 0 => .error (.fault ⟨.endInObject, cursor.position⟩)
  | fuel + 1 => do
      match ← placed (nextName? isFirst cursor) with
      | none =>
          match root with
          | none => throw (.loose (.missingField "root") cursor)
          | some root => return (⟨state.getD .empty, root⟩, cursor.skipGap.skip 1)
      | some (name, cursor) =>
          if name = "state" then
            if state.isSome then
              throw (.loose (.duplicateField "state") cursor)
            else
              let (state, cursor) ← placed (do readState (← readColon cursor))
              readDocumentMembers fuel depth false (some state) root cursor
          else if name = "root" then
            if root.isSome then
              throw (.loose (.duplicateField "root") cursor)
            else
              let (root, cursor) ← readRoot depth (← placed (readColon cursor))
              readDocumentMembers fuel depth false state (some root) cursor
          else
            let cursor ← placed (do skipValue (← readColon cursor))
            readDocumentMembers fuel depth false state root cursor

def missingRoot : Cause := .wrongLength 1 "struct ViewDocument with 2 elements"

/-- The rest of a document written as a list, up to its closing bracket. -/
def readDocumentItems (depth : Nat) (cursor : Cursor) : Except Raised (Document × Cursor) := do
  match ← placed (nextItem? true cursor) with
  | none => throw (.loose missingRoot cursor)
  | some cursor =>
      let (state, cursor) ← placed (readState cursor)
      match ← placed (nextItem? false cursor) with
      | none => throw (.loose missingRoot cursor)
      | some cursor =>
          let (root, cursor) ← readRoot depth cursor
          return (⟨state, root⟩, cursor)

/-- What follows the closing bracket of a document written as a list. -/
def closeList (cursor : Cursor) : Except Fault Cursor :=
  let cursor := cursor.skipGap
  match cursor.rest with
  | [] => .error ⟨.endInList, cursor.position⟩
  | c :: _ =>
      if c = ']' then .ok (cursor.skip 1)
      else if c = ',' then
        let cursor := (cursor.skip 1).skipGap
        if cursor.rest.head? = some ']' then .error ⟨.trailingComma, cursor.ahead⟩
        else .error ⟨.trailingCharacters, cursor.ahead⟩
      else .error ⟨.trailingCharacters, cursor.ahead⟩

/-- The document at a cursor, where `depth` lists and objects may be opened. -/
def readDocument (depth : Nat) (cursor : Cursor) : Except Fault (Document × Cursor) :=
  let cursor := cursor.skipGap
  if cursor.rest.head? = some '{' then
    match depth with
    | 0 => .error ⟨.nestedTooDeep, cursor.ahead⟩
    | depth + 1 =>
        settled placeAfterObject
          (readDocumentMembers (stepsFor cursor) depth true none none (cursor.skip 1))
  else if cursor.rest.head? = some '[' then
    match depth with
    | 0 => .error ⟨.nestedTooDeep, cursor.ahead⟩
    | depth + 1 => do
        let (document, cursor) ← settled placeAfterList (readDocumentItems depth (cursor.skip 1))
        return (document, ← closeList cursor)
  else
    refuse cursor "struct ViewDocument"

def noMoreText (cursor : Cursor) : Except Fault Unit :=
  let cursor := cursor.skipGap
  if cursor.rest.isEmpty then .ok () else .error ⟨.trailingCharacters, cursor.ahead⟩

/-- The document that a text describes. -/
def ofJson (text : String) : Except Fault Document := do
  let (document, cursor) ← readDocument deepestNesting (.ofText text.toList)
  noMoreText cursor
  return document

end Polyview.Document
