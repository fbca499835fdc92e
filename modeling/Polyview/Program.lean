import Polyview.Action.Basic
import Polyview.CommandLine.Reader

/-!
# The program

A command line is read and carried out on a host. The program ends with an exit code, and with an
error if what it was asked to do has failed.
-/

namespace Polyview.Program

/-- How the program ends. -/
inductive Result where
  | done
  | failed (error : Action.Error)
  /-- The command line was not carried out. -/
  | refused (refusal : CommandLine.Refusal)

/-- The exit code of the program. -/
def Result.exitCode : Result → Nat
  | .done => 0
  | .failed _ => 1
  | .refused refusal => refusal.exitCode

def versionText : String := "crossui 0.1.0"

def usageText : String :=
  "Usage: crossui [-l LEVEL] [-v] [-C MANIFEST] COMMAND\n\n" ++
    "Commands:\n" ++
    "  new NAME [-p PLATFORM]...\n" ++
    "  render FILE -p PLATFORM [--root] [--escape] [--app-name NAME]\n" ++
    "  build [-p PLATFORM]\n" ++
    "  compile -p PLATFORM"

variable {m : Type → Type} [Monad m]

/-- Carry out a command. Projects are started in the folder at the path `here`. -/
def perform (host : Host m) (here : String) (manifest : Option String) :
    CommandLine.Command → ExceptT Action.Error m Unit
  | .new name platforms => do
      let _ ← Action.startProject host here name platforms
  | .render file platform asPage escapes appName =>
      Action.printDocument host file platform asPage escapes appName
  | .build platform => do
      let loaded ← Action.loadManifest host manifest
      let platforms := match platform with
        | some platform => [platform]
        | none => loaded.manifest.platforms
      let _ ← Action.buildProjects host loaded platforms
  | .compile platform => do
      let loaded ← Action.loadManifest host manifest
      Action.compileProject host loaded platform

/-- Run the program with its arguments, where the current folder has the path `here`. -/
def run (host : Host m) (here : String) (arguments : List String) : m Result := do
  match CommandLine.read arguments with
  | .error refusal =>
      match refusal with
      | .version => host.print (versionText ++ "\n")
      | .help => host.print (usageText ++ "\n")
      | _ => pure ()
      return .refused refusal
  | .ok invocation =>
      match ← (perform host here invocation.manifest invocation.command).run with
      | .ok () => return .done
      | .error error => return .failed error

/-- The lines of a complaint about an error: its outermost wording first, and then what it goes back
to. -/
def complaint (error : Action.Error) : List String :=
  match error.messages with
  | [] => ["Error"]
  | [message] => ["Error: " ++ message]
  | [message, cause] => ["Error: " ++ message, "", "Caused by:", "    " ++ cause]
  | message :: causes =>
      ["Error: " ++ message, "", "Caused by:"] ++
        causes.zipIdx.map fun (cause, position) => "    " ++ Nat.repr position ++ ": " ++ cause

end Polyview.Program
