import Polyview.Document.Printer
import Polyview.Failure
import Polyview.Platform
import Polyview.Project.Basic
import Polyview.Template.Library

/-!
# Starting a project

A new project has a manifest, which names the application and its platforms, and a first document.
-/

namespace Polyview

def manifestFile : String := "crossui.toml"

/-- Where the document of an interface is kept, unless the manifest says otherwise. -/
def defaultEntry : String := "views/ContentView.json"

namespace Starter

def manifestTemplate : String :=
  String.join <| List.map (fun line => line ++ "\n")
    ["[project]",
      "name = \x7b\x7btoml_string name\x7d\x7d",
      "entry = \x7b\x7btoml_string entry\x7d\x7d",
      "",
      "[build]",
      "output_dir = \".\"",
      "platforms = [\x7b\x7b#each platforms\x7d\x7d\"\x7b\x7bthis\x7d\x7d\"" ++
        "\x7b\x7b#unless @last\x7d\x7d, \x7b\x7b/unless\x7d\x7d\x7b\x7b/each\x7d\x7d]",
      "escape = false"]

def manifestData (name : String) (platforms : List Platform) : Json.Value :=
  .object
    [("entry", .text defaultEntry), ("name", .text name),
      ("platforms", .list (platforms.map (fun platform => .text platform.name)))]

/-- The manifest of a new project. -/
def manifest (name : String) (platforms : List Platform) : Except Failure String :=
  match Template.ofText? manifestTemplate with
  | none => .error .unreadableTemplate
  | some elements =>
      (Template.Library.empty.fillIn elements (manifestData name platforms)).mapError
        Failure.template

/-- The document that every new project starts from. -/
def document : Document where
  state := TextTable.empty.insert "name" ""
  root := .stack
    [.text "Hello, CrossUI!" none, .text "This is your main content view." none,
      .field "Your name" (some "name") ""]

/-- The files of a new project, below the folder that is to hold the project's own folder. -/
def project (name : String) (platforms : List Platform) : Except Failure Project := do
  let manifest ← manifest name platforms
  return ⟨[⟨name ++ "/" ++ manifestFile, manifest, true⟩,
    ⟨name ++ "/" ++ defaultEntry, document.pretty ++ "\n", true⟩]⟩

end Starter

end Polyview
