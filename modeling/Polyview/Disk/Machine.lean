import Polyview.Disk.Place

/-!
# Machines

A machine has a file tree, a current folder, and the text that programs have printed. The operations
on its files are those of the system: each either succeeds, or leaves the machine as it was and says
why. Making a folder together with the folders around it takes several such steps, and those that
succeeded stay.
-/

namespace Polyview.Disk

/-- The tools that can be started. -/
inductive Tool where
  | shell
  | make
  deriving DecidableEq, Repr

/-- A machine. -/
structure Machine where
  tree : Tree
  /-- The place of the current folder. -/
  here : List String
  /-- What has been printed. -/
  output : String
  /-- The places of tools. No other file can be started. -/
  tools : List (List String × Tool)

namespace Machine

/-- The result of an operation that changes nothing where it fails. -/
abbrev Outcome := Except Fault Unit × Machine

def refused (machine : Machine) (fault : Fault) : Outcome := (.error fault, machine)

def changed (machine : Machine) (tree : Tree) : Outcome := (.ok (), { machine with tree := tree })

/-- What a path leads to. -/
def find (machine : Machine) (path : String) : Except Fault (List String × Tree) :=
  Disk.find machine.tree machine.here path

def has (machine : Machine) (path : String) : Bool :=
  match machine.find path with
  | .ok _ => true
  | .error _ => false

def hasFolder (machine : Machine) (path : String) : Bool :=
  match machine.find path with
  | .ok (_, .folder _) => true
  | _ => false

def readText (machine : Machine) (path : String) : Except Fault String := do
  match ← machine.find path with
  | (_, .file content) => return content
  | (_, .folder _) => throw .isFolder

def makeFolder (machine : Machine) (path : String) : Outcome :=
  let destination := do
    checkPath path
    destinationOf machine.tree (startOf machine.here path) (withoutTrailing (Path.names path))
  match destination with
  | .error fault => machine.refused fault
  | .ok (.present _) => machine.refused .taken
  | .ok (.free folder name) => machine.changed (.put .empty machine.tree (folder ++ [name]))

/-- A folder at the first of several paths, each of which leads to the folder around the one before.
A folder that is there already will do. -/
def makeFolderInside (machine : Machine) : List String → Outcome
  | [] => (.ok (), machine)
  | path :: outer =>
      match machine.makeFolder path with
      | (.ok (), machine) => (.ok (), machine)
      | (.error .missing, _) =>
          match machine.makeFolderInside outer with
          | (.ok (), machine) => orKept (machine.makeFolder path) path
          | refused => refused
      | refused => orKept refused path
where
  /-- Success if a path leads to a folder after all. -/
  orKept (outcome : Outcome) (path : String) : Outcome :=
    match outcome with
    | (.error fault, machine) =>
        if machine.hasFolder path then (.ok (), machine) else machine.refused fault
    | done => done

/-- A folder at a path, with the folders around it as far as they are missing. -/
def makeFolders (machine : Machine) (path : String) : Outcome :=
  machine.makeFolderInside (Path.ancestors path)

/-- A file at a path, new or in place of a file there. -/
def writeText (machine : Machine) (path content : String) : Outcome :=
  let names := Path.names path
  let start := startOf machine.here path
  let destination : Except Fault Destination := do
    checkPath path
    if names.getLast? = some "" then
      let place ← follow machine.tree start (withoutTrailing names).dropLast
      throw (match machine.tree.get? place with
        | some (.file _) => .notFolder
        | _ => .isFolder)
    else
      destinationOf machine.tree start names
  match destination with
  | .error fault => machine.refused fault
  | .ok (.free folder name) =>
      machine.changed (.put (.file content) machine.tree (folder ++ [name]))
  | .ok (.present place) =>
      match machine.tree.get? place with
      | some (.file _) => machine.changed (.put (.file content) machine.tree place)
      | _ => machine.refused .isFolder

def print (machine : Machine) (text : String) : Machine :=
  { machine with output := machine.output ++ text }

def hereText (machine : Machine) : String := "/" ++ "/".intercalate machine.here

def hereTree (machine : Machine) : Tree := (machine.tree.get? machine.here).getD .empty

end Machine

end Polyview.Disk
