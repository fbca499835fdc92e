import Polyview.Disk.Path
import Polyview.Platform
import Polyview.Project.Starter
import Polyview.Toml.Reader

/-!
# Manifests

A manifest names an application and says where its interface is kept, where its projects go, and
which platforms they are for.
-/

namespace Polyview

/-- What a manifest says. -/
structure Manifest where
  appName : String
  /-- The document of the interface, from the folder of the manifest. -/
  entry : String
  /-- The folder that projects are written below, from the folder of the manifest. -/
  outputFolder : String
  platforms : List Platform
  /-- Whether texts are written so that they cannot end the place where they stand. -/
  escapes : Bool
  deriving DecidableEq, Repr

namespace Manifest

open Toml (Value)

/-- The manifest of an application that goes without saying. -/
def defaultFor (appName : String) : Manifest :=
  { appName := appName
    entry := defaultEntry
    outputFolder := "."
    platforms := Platform.all
    escapes := false }

/-- A text, if there is a value at all, and otherwise a default. -/
def textOr (default : String) : Option Value → Option String
  | none => some default
  | some (.text text) => some text
  | some _ => none

def isEmptyCollection : Value → Bool
  | .list items => items.isEmpty
  | .table members => members.isEmpty
  | _ => false

/-- The platform that a value names: by a text, or as the only key of a table. -/
def platformOf? : Value → Option Platform
  | .text name => Platform.ofName? name
  | .table [(name, value)] => if isEmptyCollection value then Platform.ofName? name else none
  | _ => none

def platformsOf? : Option Value → Option (List Platform)
  | none => some Platform.all
  | some (.list items) => items.mapM platformOf?
  | some _ => none

/-- A truth value, which is false unless it is given. -/
def flagOf? : Option Value → Option Bool
  | none => some false
  | some (.boolean value) => some value
  | some _ => none

/-- The fields of a part of the manifest, in the order of their names as given here: by name from a
table, and by position from a list. -/
def fields? (names : List String) : Value → Option (List (Option Value))
  | .table members => some (names.map (fun name => members.lookup name))
  | .list items => some (names.zipIdx.map fun (_, position) => items[position]?)
  | _ => none

def ofProject? (value : Value) : Option (String × String) := do
  match ← fields? ["name", "entry"] value with
  | [some (.text name), entry] => return (name, ← textOr defaultEntry entry)
  | _ => none

/-- A manifest with the settings for building. -/
def withBuild? (manifest : Manifest) : Option Value → Option Manifest
  | none => some manifest
  | some value => do
      match ← fields? ["output_dir", "platforms", "escape"] value with
      | [folder, platforms, escapes] =>
          return { manifest with
            outputFolder := ← textOr "." folder
            platforms := ← platformsOf? platforms
            escapes := ← flagOf? escapes }
      | _ => none

/-- The manifest of a text. -/
def ofText? (text : String) : Option Manifest := do
  let members ← Toml.ofText? text
  let (name, entry) ← ofProject? (← members.lookup "project")
  { defaultFor name with entry := entry }.withBuild? (members.lookup "build")

end Manifest

/-- A manifest together with the folder that its paths start from. -/
structure LoadedManifest where
  manifest : Manifest
  folder : String
  deriving DecidableEq, Repr

namespace LoadedManifest

def entryPath (loaded : LoadedManifest) : String := Path.join loaded.folder loaded.manifest.entry

/-- The path of the folder that projects are written below. -/
def outputPath (loaded : LoadedManifest) : String :=
  Path.join loaded.folder loaded.manifest.outputFolder

end LoadedManifest

end Polyview
