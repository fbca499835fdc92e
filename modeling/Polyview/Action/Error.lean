import Polyview.Failure

/-!
# Why an action fails

An error has a cause and the contexts in which the cause arose, from the outermost one on.
-/

namespace Polyview.Action

/-- What an error goes back to. -/
inductive Cause where
  | failure (failure : Failure)
  | disk (fault : Disk.Fault)
  /-- A text is no manifest. -/
  | unreadableManifest
  /-- A project is to be started where something is. -/
  | alreadyThere (path : String)

/-- Why an action fails. -/
structure Error where
  contexts : List String
  cause : Cause

def Cause.error (cause : Cause) : Error := ⟨[], cause⟩

def Error.within (context : String) (error : Error) : Error :=
  { error with contexts := context :: error.contexts }

/-- The wording of a cause, and of what it goes back to. -/
def Cause.messages : Cause → List String
  | .failure reason => reason.causes
  | .disk fault => [fault.message]
  | .unreadableManifest => ["TOML parse error"]
  | .alreadyThere path => [path ++ " already exists"]

/-- The wording of an error, from the outermost context to the cause. -/
def Error.messages (error : Error) : List String := error.contexts ++ error.cause.messages

def Error.message (error : Error) : String := error.messages.headD ""

end Polyview.Action
