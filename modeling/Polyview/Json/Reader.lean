import Polyview.Json.Text
import Polyview.Json.Value

/-!
# Reading JSON

A value is read from a cursor, or passed over when nobody needs it. Lists and objects that are read
may nest only so deep; those that are passed over may nest without bound.
-/

namespace Polyview.Json

/-- How many lists and objects may be open at a time. -/
def deepestNesting : Nat := 127

/-- What follows the rest of a fixed word whose first letter has been read. -/
def readWord (word : List Char) (cursor : Cursor) : Except Fault Cursor :=
  match word with
  | [] => .ok cursor
  | letter :: word =>
      match cursor.rest with
      | [] => .error ⟨.endInValue, cursor.position⟩
      | c :: rest =>
          if c = letter then readWord word ⟨rest, cursor.position.after c⟩
          else .error ⟨.expectedWord, cursor.ahead⟩

def readColon (cursor : Cursor) : Except Fault Cursor :=
  let cursor := cursor.skipGap
  match cursor.rest with
  | [] => .error ⟨.endInObject, cursor.position⟩
  | c :: _ => if c = ':' then .ok (cursor.skip 1) else .error ⟨.expectedColon, cursor.ahead⟩

/-- The next item of an open list: where it starts, or nothing if the list's closing bracket comes
next. The bracket itself is left. -/
def nextItem? (isFirst : Bool) (cursor : Cursor) : Except Fault (Option Cursor) :=
  let cursor := cursor.skipGap
  match cursor.rest with
  | [] => .error ⟨.endInList, cursor.position⟩
  | c :: _ =>
      if c = ']' then .ok none
      else if isFirst then .ok (some cursor)
      else if c = ',' then
        let cursor := (cursor.skip 1).skipGap
        match cursor.rest with
        | [] => .error ⟨.endInValue, cursor.position⟩
        | c :: _ => if c = ']' then .error ⟨.trailingComma, cursor.ahead⟩ else .ok (some cursor)
      else .error ⟨.expectedListEnd, cursor.ahead⟩

/-- The next member of an open object: its name and what follows that, or nothing if the object's
closing brace comes next. The brace itself is left. -/
def nextName? (isFirst : Bool) (cursor : Cursor) : Except Fault (Option (String × Cursor)) :=
  let cursor := cursor.skipGap
  match cursor.rest with
  | [] => .error ⟨.endInObject, cursor.position⟩
  | c :: _ =>
      if c = '}' then .ok none
      else if isFirst then
        if c = '"' then some <$> readText (cursor.skip 1) else .error ⟨.keyMustBeText, cursor.ahead⟩
      else if c = ',' then
        let cursor := (cursor.skip 1).skipGap
        match cursor.rest with
        | [] => .error ⟨.endInValue, cursor.position⟩
        | c :: _ =>
            if c = '"' then some <$> readText (cursor.skip 1)
            else if c = '}' then .error ⟨.trailingComma, cursor.ahead⟩
            else .error ⟨.keyMustBeText, cursor.ahead⟩
      else .error ⟨.expectedObjectEnd, cursor.ahead⟩

mutual

/-- The value at a cursor, where `depth` more lists and objects may be opened. -/
def readValueWithin (fuel depth : Nat) (cursor : Cursor) : Except Fault (Value × Cursor) :=
  match fuel with
  | 0 => .error ⟨.endInValue, cursor.position⟩
  | fuel + 1 =>
      let cursor := cursor.skipGap
      match cursor.rest with
      | [] => .error ⟨.endInValue, cursor.position⟩
      | c :: _ =>
          if c = 'n' then do
            return (.null, ← readWord ['u', 'l', 'l'] (cursor.skip 1))
          else if c = 't' then do
            return (.boolean true, ← readWord ['r', 'u', 'e'] (cursor.skip 1))
          else if c = 'f' then do
            return (.boolean false, ← readWord ['a', 'l', 's', 'e'] (cursor.skip 1))
          else if c = '-' then do
            let (number, cursor) ← readNumber true (cursor.skip 1)
            return (.number number, cursor)
          else if c.isDigit then do
            let (number, cursor) ← readNumber false cursor
            return (.number number, cursor)
          else if c = '"' then do
            let (text, cursor) ← readText (cursor.skip 1)
            return (.text text, cursor)
          else if c = '[' then
            match depth with
            | 0 => .error ⟨.nestedTooDeep, cursor.ahead⟩
            | depth + 1 => do
                let (items, cursor) ← readItems fuel depth true (cursor.skip 1)
                return (.list items, cursor)
          else if c = '{' then
            match depth with
            | 0 => .error ⟨.nestedTooDeep, cursor.ahead⟩
            | depth + 1 => do
                let (members, cursor) ← readMembers fuel depth true (cursor.skip 1)
                return (.object members, cursor)
          else .error ⟨.expectedValue, cursor.ahead⟩

/-- The rest of a list, up to and with its closing bracket. -/
def readItems (fuel depth : Nat) (isFirst : Bool) (cursor : Cursor) :
    Except Fault (List Value × Cursor) :=
  match fuel with
  | 0 => .error ⟨.endInList, cursor.position⟩
  | fuel + 1 => do
      match ← nextItem? isFirst cursor with
      | none => return ([], cursor.skipGap.skip 1)
      | some cursor =>
          let (item, cursor) ← readValueWithin fuel depth cursor
          let (items, cursor) ← readItems fuel depth false cursor
          return (item :: items, cursor)

/-- The rest of an object, up to and with its closing brace. -/
def readMembers (fuel depth : Nat) (isFirst : Bool) (cursor : Cursor) :
    Except Fault (List (String × Value) × Cursor) :=
  match fuel with
  | 0 => .error ⟨.endInObject, cursor.position⟩
  | fuel + 1 => do
      match ← nextName? isFirst cursor with
      | none => return ([], cursor.skipGap.skip 1)
      | some (name, cursor) =>
          let cursor ← readColon cursor
          let (value, cursor) ← readValueWithin fuel depth cursor
          let (members, cursor) ← readMembers fuel depth false cursor
          return ((name, value) :: members, cursor)

end

/-- Each step of reading takes a character or goes one level down towards one, so twice the length
of the text bounds the steps. -/
def stepsFor (cursor : Cursor) : Nat := 2 * cursor.rest.length + 2

/-- The value at a cursor, where `depth` more lists and objects may be opened. -/
def readValue (depth : Nat) (cursor : Cursor) : Except Fault (Value × Cursor) :=
  readValueWithin (stepsFor cursor) depth cursor

/-- What is open while values are passed over. -/
inductive Frame where
  | list
  | object
  deriving DecidableEq

/-- The fault of a text that ends inside a list or an object. -/
def Frame.ended : Frame → Cause
  | .list => .endInList
  | .object => .endInObject

/-- The fault of an item that neither a comma nor the closing bracket follows. -/
def Frame.unfinished : Frame → Cause
  | .list => .expectedListEnd
  | .object => .expectedObjectEnd

def Frame.closing : Frame → Char
  | .list => ']'
  | .object => '}'

def skipName (cursor : Cursor) : Except Fault Cursor :=
  let cursor := cursor.skipGap
  match cursor.rest with
  | [] => .error ⟨.endInObject, cursor.position⟩
  | c :: _ =>
      if c = '"' then do
        readColon (← skipText (cursor.skip 1))
      else .error ⟨.keyMustBeText, cursor.ahead⟩

def skipScalar (c : Char) (cursor : Cursor) : Except Fault Cursor :=
  if c = 'n' then readWord ['u', 'l', 'l'] (cursor.skip 1)
  else if c = 't' then readWord ['r', 'u', 'e'] (cursor.skip 1)
  else if c = 'f' then readWord ['a', 'l', 's', 'e'] (cursor.skip 1)
  else if c = '-' then skipNumber (cursor.skip 1)
  else if c.isDigit then skipNumber cursor
  else if c = '"' then skipText (cursor.skip 1)
  else .error ⟨.expectedValue, cursor.ahead⟩

mutual

/-- What follows a value that nobody needs, inside the given open lists and objects. -/
def skipValueIn (fuel : Nat) (frames : List Frame) (cursor : Cursor) : Except Fault Cursor :=
  match fuel with
  | 0 => .error ⟨.endInValue, cursor.position⟩
  | fuel + 1 =>
      let cursor := cursor.skipGap
      match cursor.rest with
      | [] => .error ⟨.endInValue, cursor.position⟩
      | c :: _ =>
          if c = '[' then skipOnward fuel false (.list :: frames) (cursor.skip 1)
          else if c = '{' then skipOnward fuel false (.object :: frames) (cursor.skip 1)
          else do
            let cursor ← skipScalar c cursor
            skipOnward fuel true frames cursor

/-- What follows the open lists and objects, after an item of the innermost one (`afterItem`) or
directly after it was opened. -/
def skipOnward (fuel : Nat) (afterItem : Bool) (frames : List Frame) (cursor : Cursor) :
    Except Fault Cursor :=
  match fuel, frames with
  | _, [] => .ok cursor
  | 0, _ => .error ⟨.endInValue, cursor.position⟩
  | fuel + 1, frame :: outer =>
      let cursor := cursor.skipGap
      match cursor.rest with
      | [] => .error ⟨frame.ended, cursor.position⟩
      | c :: _ =>
          if c = frame.closing then skipOnward fuel true outer (cursor.skip 1)
          else if afterItem && c != ',' then .error ⟨frame.unfinished, cursor.ahead⟩
          else do
            let cursor := if afterItem then cursor.skip 1 else cursor
            let cursor ← if frame = .object then skipName cursor else .ok cursor
            skipValueIn fuel (frame :: outer) cursor

end

def skipValue (cursor : Cursor) : Except Fault Cursor :=
  skipValueIn (stepsFor cursor) [] cursor

end Polyview.Json
