/-!
# Paths

A path is a text of names with slashes between them. Joining and splitting paths works on the text
alone and changes nothing that it need not: doubled slashes and single points inside a path stay.
-/

namespace Polyview.Path

def isAbsolute (path : String) : Bool := path.toList.head? == some '/'

/-- A path below another one. An absolute second path stands for itself. -/
def join (outer inner : String) : String :=
  if isAbsolute inner then inner
  else if outer.isEmpty ∨ outer.toList.getLast? = some '/' then outer ++ inner
  else outer ++ "/" ++ inner

/-- The start of a path that is never taken away as a separator: the slash of an absolute path, or
the point that a path begins with. -/
def anchor : List Char → List Char
  | '/' :: _ => ['/']
  | ['.'] => ['.']
  | '.' :: '/' :: _ => ['.']
  | _ => []

/-- A path that is given backwards, without separators and single points at its end. -/
def dropSeparators : List Char → List Char
  | '/' :: rest => dropSeparators rest
  | ['.'] => []
  | '.' :: '/' :: rest => dropSeparators rest
  | rest => rest

/-- What follows the anchor of a path, backwards and without separators at its end. -/
def reversedBody (path : List Char) : List Char :=
  dropSeparators (path.drop (anchor path).length).reverse

def isNameChar (c : Char) : Bool := c != '/'

/-- The folder that holds what a path names. The root and the empty path have none. -/
def parent? (path : String) : Option String :=
  let anchor := anchor path.toList
  match reversedBody path.toList, anchor with
  | [], ['.'] => some ""
  | [], _ => none
  | body, _ =>
      some (String.ofList (anchor ++ (dropSeparators (body.dropWhile isNameChar)).reverse))

/-- The last name of a path. There is none if the path ends in the root, in a point or in two
points. -/
def fileName? (path : String) : Option String :=
  match (reversedBody path.toList).takeWhile isNameChar with
  | [] => none
  | ['.', '.'] => none
  | name => some (String.ofList name.reverse)

/-- A name without its extension: what follows the last point, unless that point comes first. -/
def withoutExtension (name : String) : String :=
  let reversed := name.toList.reverse
  match reversed.dropWhile (fun c => c != '.') with
  | [] => name
  | [_] => name
  | _ :: stem => String.ofList stem.reverse

def stem? (path : String) : Option String := (fileName? path).map withoutExtension

/-- A path and the folders around it, as far as their number allows, up to the root or to the empty
path, which is left out. -/
def ancestorsUpTo : (count : Nat) → String → List String
  | 0, _ => []
  | count + 1, path =>
      if path.isEmpty then
        []
      else
        match parent? path with
        | some outer => path :: ancestorsUpTo count outer
        | none => [path]

/-- A path and the folders around it, from the inside out. -/
def ancestors (path : String) : List String := ancestorsUpTo (path.length + 1) path

/-- The names of a path, where the first one has begun with `begun`, which is given backwards.
Between two slashes stands an empty name. -/
def namesFrom (begun : List Char) : List Char → List String
  | [] => [String.ofList begun.reverse]
  | c :: rest =>
      if c = '/' then String.ofList begun.reverse :: namesFrom [] rest
      else namesFrom (c :: begun) rest

/-- The names of a path, with an empty one before a leading and after a trailing slash. -/
def names (path : String) : List String := namesFrom [] path.toList

end Polyview.Path
