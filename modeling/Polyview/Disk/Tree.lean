/-!
# File trees

A file holds a text, and a folder holds entries by name. Places in a tree are given by the names on
the way from its root.
-/

namespace Polyview.Disk

/-- A file or a folder. -/
inductive Tree where
  | file (content : String)
  | folder (entries : List (String × Tree))
  deriving Repr

namespace Tree

def empty : Tree := .folder []

def isFolder : Tree → Bool
  | .folder _ => true
  | .file _ => false

def get? : Tree → List String → Option Tree
  | tree, [] => some tree
  | .folder entries, name :: rest =>
      match entries.lookup name with
      | some entry => entry.get? rest
      | none => none
  | .file _, _ :: _ => none

/-- Entries with a tree under a name. -/
def setEntry (name : String) (tree : Tree) : List (String × Tree) → List (String × Tree)
  | [] => [(name, tree)]
  | entry :: rest =>
      if entry.1 = name then (name, tree) :: rest else entry :: setEntry name tree rest

/-- The tree with another one put at a place, whose folder must be there already. -/
def put (new : Tree) : Tree → List String → Tree
  | _, [] => new
  | .folder entries, name :: rest =>
      match entries.lookup name, rest with
      | some entry, _ => .folder (setEntry name (put new entry rest) entries)
      | none, [] => .folder (setEntry name new entries)
      | none, _ :: _ => .folder entries
  | .file content, _ :: _ => .file content

mutual

/-- Every file below a tree, with the names on the way to it, and its content. -/
def files (outer : List String) : Tree → List (List String × String)
  | .file content => [(outer, content)]
  | .folder entries => filesOf outer entries

def filesOf (outer : List String) : List (String × Tree) → List (List String × String)
  | [] => []
  | (name, tree) :: rest => tree.files (outer ++ [name]) ++ filesOf outer rest

end

mutual

/-- Every folder below a tree, without the tree itself, with the names on the way to it. -/
def folders (outer : List String) : Tree → List (List String)
  | .file _ => []
  | .folder entries => foldersOf outer entries

/-- Every folder among and below the entries of a folder. -/
def foldersOf (outer : List String) : List (String × Tree) → List (List String)
  | [] => []
  | (name, tree) :: rest =>
      (if tree.isFolder then [outer ++ [name]] else []) ++ tree.folders (outer ++ [name]) ++
        foldersOf outer rest

end

end Tree

end Polyview.Disk
