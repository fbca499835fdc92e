import Polyview.Template.Filling
import Polyview.Template.Tree

/-!
# Template libraries

Templates are kept under names. A template may include the others of its library.
-/

namespace Polyview.Template

open Json (Value)

/-- Templates by name. Of several with the same name the first one counts. -/
structure Library where
  templates : List (String × List Element)

namespace Library

def empty : Library := ⟨[]⟩

def template? (library : Library) (name : String) : Option (List Element) :=
  library.templates.lookup name

def has (library : Library) (name : String) : Bool := (library.template? name).isSome

/-- The library with the template of a text, which replaces one of the same name. There is none if
the text is no template. -/
def register? (library : Library) (name text : String) : Option Library :=
  (ofText? text).map fun elements => ⟨(name, elements) :: library.templates⟩

/-- How many templates may be inside one another. Only templates that include themselves, perhaps
through others, get there. -/
def deepestInclusion : Nat := 1000

/-- What the template of a name puts out where it is included, at most `depth` levels above the
innermost one. -/
def fillNamed (library : Library) (depth : Nat) (name : String) (setting : Setting) :
    Except Failure String :=
  match depth, library.template? name with
  | _, none => .error (Cause.unknownInclusion name).failure
  | 0, some _ => .error Cause.selfInclusion.failure
  | depth + 1, some elements =>
      (fillAll (library.fillNamed depth) { setting with template := some name } elements).mapError
        (Failure.within (some name))

/-- The text of elements that are no part of the library, filled in with data. -/
def fillIn (library : Library) (elements : List Element) (data : Value) : Except Failure String :=
  fillAll (library.fillNamed deepestInclusion) (.start data) elements

/-- The template of a name, filled in with data. -/
def render (library : Library) (name : String) (data : Value) : Except Failure String :=
  if library.has name then
    library.fillNamed deepestInclusion name (.start data)
  else
    .error (Cause.unknownTemplate name).failure

end Library

end Polyview.Template
