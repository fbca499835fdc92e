/-!
# Faults of the disk

Why the system refuses to find, create, read, write or start something, with the number that the
system gives each reason.
-/

namespace Polyview.Disk

/-- Why the system refuses a request. -/
inductive Fault where
  /-- Nothing has the name. -/
  | missing
  | denied
  /-- Something has the name already. -/
  | taken
  | notFolder
  | isFolder
  | nameTooLong
  /-- A name with a character that no name can have. -/
  | nulInName
  /-- An argument with a character that no argument can have. -/
  | nulInArgument
  deriving DecidableEq, Repr

def numbered (reason : String) (number : Nat) : String :=
  reason ++ " (os error " ++ Nat.repr number ++ ")"

def Fault.message : Fault → String
  | .missing => numbered "No such file or directory" 2
  | .denied => numbered "Permission denied" 13
  | .taken => numbered "File exists" 17
  | .notFolder => numbered "Not a directory" 20
  | .isFolder => numbered "Is a directory" 21
  | .nameTooLong => numbered "File name too long" 36
  | .nulInName => "file name contained an unexpected NUL byte"
  | .nulInArgument => "nul byte found in provided data"

end Polyview.Disk
