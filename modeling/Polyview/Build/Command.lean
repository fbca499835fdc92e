import Polyview.Disk.Path
import Polyview.Host
import Polyview.Platform
import Polyview.Project.Generation

/-!
# Build commands

The native tool that builds a generated project, with its arguments and the folder that it runs in.
-/

namespace Polyview

/-- How a tool is started. -/
structure BuildCommand where
  program : String
  arguments : List String
  /-- The folder that the tool runs in, from the folder of the whole project. -/
  folder : String
  deriving DecidableEq, Repr

namespace BuildCommand

def ofPlatform (appName : String) (platform : Platform) : BuildCommand :=
  match platform with
  | .macos =>
      { program := "/usr/bin/xcodebuild"
        arguments := ["-project", platform.projectFolder ++ "/" ++ appName ++ ".xcodeproj",
          "-scheme", appName, "build"]
        folder := "." }
  | .windows =>
      { program := "C:/Program Files/Microsoft Visual Studio/2022/BuildTools/MSBuild/" ++
          "Current/Bin/MSBuild.exe"
        arguments := [platform.projectFolder ++ "/" ++ appName ++ ".sln", "/t:Rebuild",
          "/p:Configuration=Release"]
        folder := "." }
  | .linux =>
      { program := "/usr/bin/make"
        arguments := []
        folder := platform.projectFolder }

def toolName (command : BuildCommand) : String := (Path.stem? command.program).getD command.program

/-- Run the tool in its folder below the folder of the whole project. -/
def run {m : Type → Type} [Monad m] (host : Host m) (command : BuildCommand) (root : String) :
    ExceptT Failure m Unit := do
  match ← host.launch command.program command.arguments (Path.join root command.folder) with
  | .error fault => throw (.launch command.toolName fault)
  | .ok (.exit 0) => return
  | .ok (.exit code) => throw (.tool command.toolName (some code))
  | .ok .signal => throw (.tool command.toolName none)

end BuildCommand

end Polyview
