/-!
# Places in a text

A reader of JSON goes through a text with a cursor: what is left to read, and the line and column at
which it starts. Columns count bytes, so that any editor can find the place.
-/

namespace Polyview.Json

/-- A place in a text: the number of its line, and how many bytes of that line come before it. -/
structure Position where
  line : Nat
  column : Nat
  deriving DecidableEq, Repr

namespace Position

def start : Position := ⟨1, 0⟩

def forward (position : Position) (bytes : Nat) : Position :=
  ⟨position.line, position.column + bytes⟩

def after (position : Position) (c : Char) : Position :=
  if c = '\n' then ⟨position.line + 1, 0⟩ else position.forward c.utf8Size

def afterAll (position : Position) (text : List Char) : Position := text.foldl after position

/-- The place some bytes into a text, which may be inside a character. -/
def afterBytes (position : Position) (bytes : Nat) : List Char → Position
  | [] => position
  | c :: rest =>
      if bytes = 0 then position
      else if c.utf8Size ≤ bytes then (position.after c).afterBytes (bytes - c.utf8Size) rest
      else position.forward bytes

end Position

/-- What is left of a text, and where it starts. -/
structure Cursor where
  rest : List Char
  position : Position

namespace Cursor

def ofText (text : List Char) : Cursor := ⟨text, .start⟩

/-- The place after the next byte, where a fault in that byte is reported. At the end of the text
this is the end itself. -/
def ahead (cursor : Cursor) : Position := cursor.position.afterBytes 1 cursor.rest

def skip (cursor : Cursor) (count : Nat) : Cursor :=
  ⟨cursor.rest.drop count, cursor.position.afterAll (cursor.rest.take count)⟩

def isGap (c : Char) : Bool := c == ' ' || c == '\n' || c == '\t' || c == '\r'

/-- The cursor after any blanks. -/
def skipGap (cursor : Cursor) : Cursor :=
  ⟨cursor.rest.dropWhile isGap, cursor.position.afterAll (cursor.rest.takeWhile isGap)⟩

end Cursor

end Polyview.Json
