import Polyview.Build.Makefile
import Polyview.Host

/-!
# Starting tools

A tool is started in a folder, which must be there, and is found by its path or, if that has no
slash, in the folders for tools.
-/

namespace Polyview.Disk.Machine

/-- The folders in which tools are looked for. -/
def toolFolders : List String := ["/usr/local/bin", "/usr/bin", "/bin"]

def programPaths (program : String) : List String :=
  if program.toList.contains '/' then [program]
  else if program.isEmpty then []
  else toolFolders.map (fun folder => Path.join folder program)

def toolAt (machine : Machine) (path : String) : Except Fault Tool := do
  let (place, _) ← machine.find path
  match machine.tools.lookup place with
  | some tool => return tool
  | none => throw .denied

/-- The first tool at one of several paths. If there is none, the last reason counts. -/
def toolAmong (machine : Machine) (fault : Fault) : List String → Except Fault Tool
  | [] => .error fault
  | path :: rest =>
      match machine.toolAt path with
      | .ok tool => .ok tool
      | .error .missing => machine.toolAmong fault rest
      | .error other => machine.toolAmong other rest

def runTool (machine : Machine) (program : String) (arguments : List String) :
    Tool → Ending × Machine
  | .shell => Shell.runShell machine program arguments
  | .make => Makefile.run machine

/-- Start a program in a folder. Whatever it does, the machine stays in its current folder. -/
def launch (machine : Machine) (program : String) (arguments : List String) (folder : String) :
    Except Fault Ending × Machine :=
  if (program :: folder :: arguments).any (fun text => text.toList.contains '\x00') then
    (.error .nulInArgument, machine)
  else
    match machine.find folder with
    | .error fault => (.error fault, machine)
    | .ok (_, .file _) => (.error .notFolder, machine)
    | .ok (place, .folder _) =>
        let inside := { machine with here := place }
        match inside.toolAmong .missing (programPaths program) with
        | .error fault => (.error fault, machine)
        | .ok tool =>
            let (ending, after) := inside.runTool program arguments tool
            (.ok ending, { after with here := machine.here })

def host : Host (StateM Machine) where
  readText path := do return (← get).readText path
  has path := do return (← get).has path
  makeFolders path := fun machine => machine.makeFolders path
  writeText path content := fun machine => machine.writeText path content
  launch program arguments folder := fun machine => machine.launch program arguments folder
  print text := fun machine => ((), machine.print text)

/-- The files that every machine has. -/
def standardTree : Tree :=
  .folder
    [("bin", .folder [("sh", .file "")]),
      ("dev", .folder [("null", .file "")]),
      ("etc", .folder [("passwd", .file "")]),
      ("home", .empty),
      ("lib", .empty),
      ("mnt", .empty),
      ("opt", .empty),
      ("root", .empty),
      ("tmp", .empty),
      ("usr", .folder
        [("bin", .folder [("make", .file ""), ("sh", .file "")]), ("lib", .empty),
          ("local", .folder [("bin", .empty)]), ("share", .empty)]),
      ("var", .folder [("log", .empty), ("tmp", .empty)])]

/-- A tree with empty folders on the way to a place below a folder. -/
def withFolders (outer : List String) (tree : Tree) : List String → Tree
  | [] => tree
  | name :: rest =>
      let tree :=
        if (tree.get? (outer ++ [name])).isSome then tree
        else .put .empty tree (outer ++ [name])
      withFolders (outer ++ [name]) tree rest

/-- A machine with a shell and with the tool that reads makefiles, whose current folder has nothing
in it. -/
def standard (here : List String) : Machine :=
  { tree := withFolders [] standardTree here
    here := here
    output := ""
    tools := [(["bin", "sh"], .shell), (["usr", "bin", "sh"], .shell),
      (["usr", "bin", "make"], .make)] }

end Polyview.Disk.Machine
