import Polyview.Action.Error
import Polyview.Build.Command
import Polyview.Document.Reader
import Polyview.Manifest
import Polyview.Project.Starter

/-!
# Actions

What can be done with projects on a host: starting one, rendering a document, generating projects
from a manifest and building what has been generated.
-/

namespace Polyview.Action

variable {m : Type → Type} [Monad m]

/-- An action that fails where a result is a fault. -/
def orFail {ε α : Type} (fault : ε → Error) (result : m (Except ε α)) : ExceptT Error m α := do
  match ← result with
  | .ok value => return value
  | .error problem => throw (fault problem)

/-- An action whose errors arise in a context. -/
def within {α : Type} (context : String) (action : ExceptT Error m α) : ExceptT Error m α :=
  ExceptT.adapt (Error.within context) action

def orFailure {α : Type} (result : Except Failure α) : ExceptT Error m α :=
  orFail (fun failure => (Cause.failure failure).error) (pure result)

def diskError (fault : Disk.Fault) : Error := (Cause.failure (.disk fault)).error

def loadDocument (host : Host m) (path : String) : ExceptT Error m Document := do
  let text ← orFail diskError (host.readText path)
  orFailure ((Document.ofJson text).mapError Failure.json)

def viewsOf (document : Document) : ExceptT Error m (View × Store) :=
  orFailure ((document.toView .empty).mapError Failure.document)

/-- Write the files of a project below a folder. The result has their paths. -/
def writeFiles (host : Host m) (root : String) :
    List GeneratedFile → ExceptT Error m (List String)
  | [] => return []
  | file :: rest => do
      let path := Path.join root file.path
      match Path.parent? path with
      | some folder => orFail diskError (host.makeFolders folder)
      | none => pure ()
      orFail diskError (host.writeText path file.content)
      return path :: (← writeFiles host root rest)

/-- Start a project in a folder of its own. Without platforms it is for all of them. The result is
the path of the project's folder. -/
def startProject (host : Host m) (parent name : String) (platforms : List Platform) :
    ExceptT Error m String := do
  let folder := Path.join parent name
  if ← host.has folder then
    throw (Cause.alreadyThere folder).error
  let project ← orFailure
    (Starter.project name (if platforms.isEmpty then Platform.all else platforms))
  let _ ← within ("Failed to write project " ++ folder) (writeFiles host parent project.files)
  host.print ("New CrossUI project created at " ++ folder ++ "\n")
  return folder

/-- A document as it is rendered for a platform, as a whole page or as a fragment of one. -/
def renderDocument (host : Host m) (file : String) (platform : Platform) (asPage escapes : Bool)
    (appName : String) : ExceptT Error m String := do
  let document ← within ("Failed to load view document " ++ file) (loadDocument host file)
  let (view, store) ← viewsOf document
  let style := platform.style escapes
  return if asPage then view.renderPage style store appName else view.render style store

def printDocument (host : Host m) (file : String) (platform : Platform) (asPage escapes : Bool)
    (appName : String) : ExceptT Error m Unit := do
  let text ← renderDocument host file platform asPage escapes appName
  host.print (text ++ "\n")

def readManifest (text : String) : Except Error Manifest :=
  match Manifest.ofText? text with
  | some manifest => .ok manifest
  | none => .error (Cause.unreadableManifest.error.within "Failed to parse manifest")

/-- The folder that the paths of a manifest start from. -/
def manifestFolder (path : String) : String :=
  match Path.parent? path with
  | some folder => if folder.isEmpty then "." else folder
  | none => "."

/-- The manifest at a path, or in the current folder if no path is given. -/
def loadManifest (host : Host m) (path : Option String) : ExceptT Error m LoadedManifest := do
  let path := path.getD manifestFile
  let text ← within ("Failed to read " ++ path)
    (orFail (fun fault => (Cause.disk fault).error) (host.readText path))
  let manifest ← within ("Invalid manifest " ++ path) (orFail id (pure (readManifest text)))
  return ⟨manifest, manifestFolder path⟩

/-- Generate and write the project of an interface for each platform in turn. The result has the
paths of all files. -/
def buildEach (host : Host m) (interface : Interface) (output : String) :
    List Platform → ExceptT Error m (List String)
  | [] => return []
  | platform :: rest => do
      let project ← orFailure (interface.project platform)
      let paths ← within ("Failed to write " ++ platform.name ++ " project")
        (writeFiles host output project.files)
      host.print ("Generated " ++ platform.framework ++ " project (" ++ Nat.repr paths.length ++
        ") in " ++ Path.join (Path.join output "Build") platform.folder ++ "\n")
      return paths ++ (← buildEach host interface output rest)

/-- Generate the projects of a manifest's interface for platforms. -/
def buildProjects (host : Host m) (loaded : LoadedManifest) (platforms : List Platform) :
    ExceptT Error m (List String) := do
  let document ← within ("Failed to load entry view " ++ loaded.entryPath)
    (loadDocument host loaded.entryPath)
  let (root, store) ← viewsOf document
  let interface : Interface := ⟨loaded.manifest.appName, root, store, loaded.manifest.escapes⟩
  buildEach host interface loaded.outputPath platforms

/-- Build the project that has been generated for a platform. -/
def compileProject (host : Host m) (loaded : LoadedManifest) (platform : Platform) :
    ExceptT Error m Unit := do
  let command := BuildCommand.ofPlatform loaded.manifest.appName platform
  within ("Native build for " ++ platform.name ++ " failed")
    (orFail (fun failure => (Cause.failure failure).error)
      (command.run host loaded.outputPath).run)
  host.print ("Built " ++ loaded.manifest.appName ++ " for " ++ platform.name ++ "\n")

end Polyview.Action
