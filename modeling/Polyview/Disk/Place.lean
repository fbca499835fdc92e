import Polyview.Disk.Fault
import Polyview.Disk.Path
import Polyview.Disk.Tree

/-!
# Where a path leads

A path is followed name by name from the root or from the current folder. A single point and an
empty name stay where they are, two points lead to the folder around, and every name but the last
must lead to a folder that is there.
-/

namespace Polyview.Disk

/-- Names with more bytes than this are refused. -/
def longestName : Nat := 255

/-- Paths with more bytes than this are refused. -/
def longestPath : Nat := 4095

def follow (tree : Tree) (place : List String) : List String → Except Fault (List String)
  | [] => .ok place
  | name :: rest =>
      match tree.get? place with
      | none => .error .missing
      | some (.file _) => .error .notFolder
      | some (.folder _) =>
          if name = "" ∨ name = "." then
            follow tree place rest
          else if name = ".." then
            follow tree place.dropLast rest
          else if longestName < name.utf8ByteSize then
            .error .nameTooLong
          else if (tree.get? (place ++ [name])).isSome then
            follow tree (place ++ [name]) rest
          else
            .error .missing

/-- A path that the system accepts. -/
def checkPath (path : String) : Except Fault Unit :=
  if path.toList.contains '\x00' then .error .nulInName
  else if path.isEmpty then .error .missing
  else if longestPath < path.utf8ByteSize then .error .nameTooLong
  else .ok ()

def startOf (here : List String) (path : String) : List String :=
  if Path.isAbsolute path then [] else here

/-- The place that a path leads to, and the tree there. -/
def find (tree : Tree) (here : List String) (path : String) :
    Except Fault (List String × Tree) := do
  checkPath path
  let place ← follow tree (startOf here path) (Path.names path)
  match tree.get? place with
  | some found => return (place, found)
  | none => throw .missing

/-- What a path that is to be created leads to. -/
inductive Destination where
  /-- Something that is there already. -/
  | present (place : List String)
  /-- A name that is free in a folder. -/
  | free (folder : List String) (name : String)
  deriving DecidableEq, Repr

def destinationIn (tree : Tree) (folder : List String) (name : String) :
    Except Fault Destination :=
  match tree.get? folder with
  | none => .error .missing
  | some (.file _) => .error .notFolder
  | some (.folder _) =>
      if name = "" ∨ name = "." then .ok (.present folder)
      else if name = ".." then .ok (.present folder.dropLast)
      else if longestName < name.utf8ByteSize then .error .nameTooLong
      else if (tree.get? (folder ++ [name])).isSome then .ok (.present (folder ++ [name]))
      else .ok (.free folder name)

/-- The destination that names lead to, the last of which need not be there. -/
def destinationOf (tree : Tree) (start : List String) (names : List String) :
    Except Fault Destination := do
  let folder ← follow tree start names.dropLast
  destinationIn tree folder (names.getLast?.getD "")

def withoutTrailing (names : List String) : List String :=
  (names.reverse.dropWhile (fun name => name.isEmpty)).reverse

end Polyview.Disk
