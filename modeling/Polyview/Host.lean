import Polyview.Disk.Fault

/-!
# Hosts

What the commands need from the system that they run on. The same commands run on the system at hand
and on a machine that is a value.
-/

namespace Polyview

/-- How a program ends. -/
inductive Ending where
  | exit (code : Nat)
  /-- The program was ended from outside. -/
  | signal
  deriving DecidableEq, Repr

/-- The operations of a system. -/
structure Host (m : Type → Type) where
  /-- The content of the file at a path. -/
  readText : (path : String) → m (Except Disk.Fault String)
  /-- Whether a path leads anywhere. -/
  has : (path : String) → m Bool
  /-- A folder at a path, with the folders around it as far as they are missing. -/
  makeFolders : (path : String) → m (Except Disk.Fault Unit)
  /-- A file at a path, new or in place of a file there. -/
  writeText : (path content : String) → m (Except Disk.Fault Unit)
  /-- A program that is started in a folder and has ended. -/
  launch : (program : String) → (arguments : List String) → (folder : String) →
    m (Except Disk.Fault Ending)
  print : (text : String) → m Unit

end Polyview
