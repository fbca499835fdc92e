import Polyview.Failure
import Polyview.Project.Basic
import Polyview.Project.Boilerplate
import Polyview.Render.Target

/-!
# Generating projects

For each platform an interface becomes one file, next to the boilerplate of the platform's build
tools.
-/

namespace Polyview

/-- An interface that projects are generated from, and how. -/
structure Interface where
  appName : String
  root : View
  /-- The texts that the fields of the interface show. -/
  store : Store
  /-- Whether texts are written so that they cannot end the place where they stand. -/
  escapes : Bool

def Platform.projectFolder (platform : Platform) : String := "Build/" ++ platform.folder

def Platform.interfaceFile : Platform → String
  | .macos => "ContentView.swift"
  | .windows => "MainPage.xaml"
  | .linux => "LinuxUI.swift"

/-- The boilerplate of a platform, with file names below the platform's folder. -/
def Platform.boilerplate (appName : String) : Platform → List (String × Boilerplate)
  | .macos =>
      [(appName ++ ".xcodeproj/project.pbxproj", .xcodeProject), ("Info.plist", .bundleInformation)]
  | .windows =>
      [(appName ++ ".sln", .solution), (appName ++ ".csproj", .windowsProject),
        ("App.xaml", .windowsApplication), ("App.xaml.cs", .windowsApplicationCode)]
  | .linux => [("Makefile", .makefile)]

namespace Interface

def file (interface : Interface) (platform : Platform) : GeneratedFile :=
  { path := platform.projectFolder ++ "/" ++ platform.interfaceFile
    content :=
      interface.root.renderPage (platform.style interface.escapes) interface.store interface.appName
    isBoilerplate := false }

def data (interface : Interface) : Json.Value := .object [("app_name", .text interface.appName)]

def boilerplateFile (interface : Interface) (library : Template.Library) (platform : Platform)
    (fileName : String) (kind : Boilerplate) : Except Failure GeneratedFile := do
  let content ← (library.render kind.name interface.data).mapError Failure.template
  return ⟨platform.projectFolder ++ "/" ++ fileName, content, true⟩

/-- A library of templates, if all of its templates could be read. -/
def orUnreadable : Option Template.Library → Except Failure Template.Library
  | none => .error .unreadableTemplate
  | some library => .ok library

/-- The project of an interface for a platform. -/
def project (interface : Interface) (platform : Platform) : Except Failure Project := do
  let library ← orUnreadable Boilerplate.library?
  let files ← (platform.boilerplate interface.appName).mapM fun (fileName, kind) =>
    interface.boilerplateFile library platform fileName kind
  return ⟨interface.file platform :: files⟩

end Interface

end Polyview
