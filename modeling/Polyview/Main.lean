import Polyview.Program

/-!
# The command line program

The program runs on the system at hand. It cannot start other programs there, so building a
generated project fails like on a system without the build tools.
-/

namespace Polyview.Program

def faultOf : IO.Error → Disk.Fault
  | .permissionDenied .. => .denied
  | .alreadyExists .. => .taken
  | .inappropriateType .. => .isFolder
  | .illegalOperation .. => .isFolder
  | .invalidArgument .. => .nulInName
  | .resourceVanished .. => .notFolder
  | _ => .missing

def attempt {α : Type} (operation : IO α) : IO (Except Disk.Fault α) := do
  match ← operation.toBaseIO with
  | .ok value => return .ok value
  | .error error => return .error (faultOf error)

/-- The system at hand. -/
def systemHost : Host IO where
  readText path := attempt (IO.FS.readFile path)
  has path := do
    match ← attempt (IO.FS.realPath path) with
    | .ok _ => return true
    | .error _ => return false
  makeFolders path := attempt (IO.FS.createDirAll path)
  writeText path content := attempt (IO.FS.writeFile path content)
  launch _ _ _ := return .error .missing
  print text := do
    let output ← IO.getStdout
    output.putStr text

end Polyview.Program

/-- Run the program with the arguments of the command line. -/
def main (arguments : List String) : IO UInt32 := do
  let here ← IO.currentDir
  let result ← Polyview.Program.run Polyview.Program.systemHost (toString here) arguments
  match result with
  | .failed error =>
      for line in Polyview.Program.complaint error do
        IO.eprintln line
  | .refused refusal =>
      if refusal.exitCode ≠ 0 then
        IO.eprintln Polyview.Program.usageText
  | .done => pure ()
  return result.exitCode.toUInt32
