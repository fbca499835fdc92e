/-!
# Projects

A generated project is a list of files with their paths. Some are the same for every interface; one
holds the interface itself.
-/

namespace Polyview

/-- A file of a generated project. -/
structure GeneratedFile where
  /-- Where the file belongs, from the folder of the whole project. -/
  path : String
  content : String
  /-- Whether the file does not depend on the interface. -/
  isBoilerplate : Bool
  deriving DecidableEq, Repr

/-- The files of a generated project, in the order in which they were generated. -/
structure Project where
  files : List GeneratedFile
  deriving DecidableEq, Repr

/-- The file at a path. -/
def Project.file? (project : Project) (path : String) : Option GeneratedFile :=
  project.files.find? (fun file => file.path == path)

end Polyview
