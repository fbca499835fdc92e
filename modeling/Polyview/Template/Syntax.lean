import Polyview.Json.Value

/-!
# Templates

A template is text with tags. A tag puts out a value, calls a helper, opens a block for a helper, or
puts in another template. Each tag knows its place, which errors report.
-/

namespace Polyview.Template

open Json (Value)

/-- The line and the column of a character, both from one. -/
structure Place where
  line : Nat
  column : Nat
  deriving DecidableEq, Repr

def Place.after (place : Place) (c : Char) : Place :=
  if c = '\n' then ⟨place.line + 1, 1⟩ else ⟨place.line, place.column + 1⟩

/-- A way to refer to a value, together with how it was written. -/
inductive Reference where
  /-- A variable of the block that stands `level` blocks further out. -/
  | variable (level : Nat) (name written : String)
  /-- Names to follow, from the data as a whole or from where the block `level` blocks further out
  stands. -/
  | path (fromRoot : Bool) (level : Nat) (names : List String) (written : String)
  deriving DecidableEq, Repr

def Reference.written : Reference → String
  | .variable _ _ written => written
  | .path _ _ _ written => written

mutual

/-- A value given to a helper. -/
inductive Argument where
  | literal (value : Value)
  | reference (reference : Reference)
  | call (call : Call)

/-- A helper with its arguments, by place and by name. -/
inductive Call where
  | mk (helper : String) (arguments : List Argument) (options : List (String × Argument))

end

def Call.helper : Call → String
  | .mk helper _ _ => helper

def Call.arguments : Call → List Argument
  | .mk _ arguments _ => arguments

def Call.options : Call → List (String × Argument)
  | .mk _ _ options => options

/-- What a block calls its item, and perhaps its place in the collection. -/
inductive BlockNames where
  | none
  | item (item : String)
  | itemAndKey (item key : String)
  deriving DecidableEq, Repr

/-- A part of a template. -/
inductive Element where
  | text (text : String)
  /-- A value that is put out, or a helper without arguments. -/
  | output (place : Place) (head : Argument)
  /-- A helper with arguments. -/
  | helper (place : Place) (call : Call)
  /-- A helper around a body and perhaps an inverse. A block that continues another one after an
  inverse tag has no place of its own. -/
  | block (place : Option Place) (call : Call) (names : BlockNames) (body : List Element)
      (inverse : Option (List Element))
  /-- Another template, with an indentation for each of its lines but the first. -/
  | inclusion (place : Place) (name : String) (arguments : List Argument)
      (options : List (String × Argument)) (indentation : List Char)

end Polyview.Template
