import Polyview.Platform
import Polyview.Text.Letter
import Polyview.Text.Lines

/-!
# State variables declared in source text

A line of SwiftUI source declares a state variable if somewhere in it stand the mark `@State`,
blanks, perhaps `private` and blanks, `var`, blanks and a name. A type may follow a colon and an
initial value an equals sign. The leftmost mark from which a declaration can be read counts, and the
whole line is kept to be declared again.
-/

namespace Polyview

/-- A state variable that a source line declares. -/
structure StateVariable where
  /-- The whole source line. -/
  declaration : String
  isPrivate : Bool
  name : String
  /-- The declared type, or `Any`. -/
  typeName : String
  initial : Option String
  deriving DecidableEq, Repr

namespace StateVariable

open Text

/-- What a declaration says about its variable. -/
structure Parts where
  isPrivate : Bool
  name : List Char
  typeName : Option (List Char)
  initial : Option (List Char)
  deriving DecidableEq, Repr

/-- The mark of a declaration. -/
def mark : List Char := ['@', 'S', 't', 'a', 't', 'e']

def afterWord? (word text : List Char) : Option (List Char) :=
  if word.isPrefixOf text then some (text.drop word.length) else none

def afterBlanks? (text : List Char) : Option (List Char) :=
  match text with
  | [] => none
  | c :: rest => if isBlank c then some (trimStart rest) else none

/-- The longest beginning that satisfies a test, if it is not empty, and what follows it. -/
def stretch? (test : Char → Bool) (text : List Char) : Option (List Char × List Char) :=
  match text.takeWhile test with
  | [] => none
  | run => some (run, text.dropWhile test)

def afterPrivate? (text : List Char) : Option (List Char) := do
  let rest ← afterWord? ['p', 'r', 'i', 'v', 'a', 't', 'e'] text
  afterBlanks? rest

/-- A colon and a type, which reaches to the next equals sign. -/
def typeAnnotation? (text : List Char) : Option (List Char × List Char) := do
  let rest ← afterWord? [':'] (trimStart text)
  let (run, rest) ← stretch? (fun c => c != '=') rest
  return (trim run, rest)

/-- An equals sign and an initial value, which reaches to the end of the line. A value of nothing
but blanks is none. -/
def initialValue? (text : List Char) : Option (List Char) := do
  let rest ← afterWord? ['='] (trimStart text)
  let (run, _) ← stretch? (fun c => c != '\n' && c != '\r') (trimStart rest)
  return run

/-- The declaration that starts at the mark with which a text begins. -/
def partsAt? (text : List Char) : Option Parts := do
  let rest ← afterWord? mark text
  let rest ← afterBlanks? rest
  let isPrivate := (afterPrivate? rest).isSome
  let rest := (afterPrivate? rest).getD rest
  let rest ← afterWord? ['v', 'a', 'r'] rest
  let rest ← afterBlanks? rest
  let (name, rest) ← stretch? isNameChar rest
  let typeName := (typeAnnotation? rest).map Prod.fst
  let rest := ((typeAnnotation? rest).map Prod.snd).getD rest
  return ⟨isPrivate, name, typeName, initialValue? rest⟩

/-- The leftmost declaration in a text. -/
def parts? : List Char → Option Parts
  | [] => none
  | c :: rest =>
      match partsAt? (c :: rest) with
      | some parts => some parts
      | none => parts? rest

/-- The variable that a line with the given parts declares. -/
def ofParts (line : List Char) (parts : Parts) : StateVariable where
  declaration := String.ofList line
  isPrivate := parts.isPrivate
  name := String.ofList parts.name
  typeName := String.ofList (parts.typeName.getD ['A', 'n', 'y'])
  initial := parts.initial.map String.ofList

/-- The variable that a line declares, if it declares one. -/
def ofLine? (line : List Char) : Option StateVariable := (parts? line).map (ofParts line)

/-- The variables that the lines of a source text declare, in order. -/
def scan (source : String) : List StateVariable := (lines source.toList).filterMap ofLine?

def undeclaringLines (source : String) : List (List Char) :=
  (lines source.toList).filter (fun line => (ofLine? line).isNone)

/-- The line that declares the variable in code generated for a platform. Only SwiftUI knows state
variables. -/
def declarationFor (declared : StateVariable) : Platform → String
  | .macos => declared.declaration
  | .windows => "// TODO: Implement WinUI state"
  | .linux => "// Linux state management not implemented"

end StateVariable

end Polyview
