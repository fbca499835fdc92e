import Polyview.Disk.Fault
import Polyview.Document.Views
import Polyview.Json.Fault
import Polyview.Template.Failure

/-!
# Why something could not be generated or built

Faults of the parts that generation and building rely on, each with its wording. A failure that goes
back to a fault with a wording of its own reports both.
-/

namespace Polyview

/-- Why something could not be generated or built. -/
inductive Failure where
  /-- A text is no document. -/
  | json (fault : Json.Fault)
  /-- A document has no views. -/
  | document (error : DocumentError)
  /-- A text is no template. -/
  | unreadableTemplate
  | template (failure : Template.Failure)
  | disk (fault : Disk.Fault)
  /-- A tool could not be started. -/
  | launch (tool : String) (fault : Disk.Fault)
  /-- A tool ended without success, with an exit code unless a signal ended it. -/
  | tool (tool : String) (code : Option Nat)

namespace Failure

def message : Failure → String
  | .json fault => "JSON error: " ++ fault.message
  | .document error => error.message
  | .unreadableTemplate => "Invalid template"
  | .template failure => "Template error: " ++ failure.message
  | .disk fault => "IO error: " ++ fault.message
  | .launch name fault => "Failed to launch " ++ name ++ ": " ++ fault.message
  | .tool name none => name ++ " failed"
  | .tool name (some code) => name ++ " failed with exit code " ++ Nat.repr code

/-- The wording of the fault that a failure goes back to. -/
def origin? : Failure → Option String
  | .json fault => some fault.message
  | .disk fault => some fault.message
  | .launch _ fault => some fault.message
  | .template failure => some failure.message
  | .document _ | .unreadableTemplate | .tool _ _ => none

/-- The wording of a failure and of what it goes back to. -/
def causes (failure : Failure) : List String := failure.message :: failure.origin?.toList

end Failure

end Polyview
