import Mathlib.Data.List.Forall2
import Polyview.Project.Generation
import Polyview.Proofs.Disk.Path
import Polyview.Proofs.Project.Boilerplate

/-!
# The files of generated projects

A project can be generated for every interface and every platform. Whatever the name of the
application is, the path of each file ends in a text of its own, so that no two files of the
projects of an interface have paths with the same last name.
-/

namespace Polyview

namespace Interface

/-- The files of the project of an interface, each with the content that it is to have. -/
def files (interface : Interface) (platform : Platform) : List GeneratedFile :=
  interface.file platform :: (platform.boilerplate interface.appName).map fun (fileName, kind) =>
    ⟨platform.projectFolder ++ "/" ++ fileName, kind.filled interface.appName, true⟩

theorem boilerplateFile_eq_ok {library : Template.Library}
    (isLibrary : Boilerplate.library? = some library) (interface : Interface)
    (platform : Platform) (fileName : String) (kind : Boilerplate) :
    interface.boilerplateFile library platform fileName kind =
      .ok ⟨platform.projectFolder ++ "/" ++ fileName, kind.filled interface.appName, true⟩ := by
  have rendered := Boilerplate.render_eq_ok isLibrary kind interface.appName
  rw [Boilerplate.members] at rendered
  rw [boilerplateFile, data, rendered, mapError_ok, ok_bind, pure_eq_ok]

theorem boilerplateFiles_eq_ok {library : Template.Library}
    (isLibrary : Boilerplate.library? = some library) (interface : Interface)
    (platform : Platform) :
    ((platform.boilerplate interface.appName).mapM fun (fileName, kind) =>
      interface.boilerplateFile library platform fileName kind) =
        .ok ((platform.boilerplate interface.appName).map fun (fileName, kind) =>
          ⟨platform.projectFolder ++ "/" ++ fileName, kind.filled interface.appName, true⟩) :=
  mapM_eq_ok fun named _ => boilerplateFile_eq_ok isLibrary interface platform named.1 named.2

theorem orUnreadable_some (library : Template.Library) :
    orUnreadable (some library) = .ok library :=
  rfl

theorem project_eq_ok (interface : Interface) (platform : Platform) :
    interface.project platform = .ok ⟨interface.files platform⟩ := by
  have isLibrary := Boilerplate.library?_eq
  rw [project, isLibrary, orUnreadable_some, ok_bind,
    boilerplateFiles_eq_ok isLibrary interface platform, ok_bind, pure_eq_ok, files]

end Interface

/-! ## What paths end in -/

/-- What the paths of the files of a project end in, in the order of the files. -/
def Platform.endings : Platform → List String
  | .macos => ["ContentView.swift", "project.pbxproj", "Info.plist"]
  | .windows => ["MainPage.xaml", ".sln", ".csproj", "App.xaml", "App.xaml.cs"]
  | .linux => ["LinuxUI.swift", "Makefile"]

def EndsIn (path ending : String) : Prop := ∃ begun, path = begun ++ ending

theorem EndsIn.append {path ending : String} (endsIn : EndsIn path ending) (before : String) :
    EndsIn (before ++ path) ending := by
  obtain ⟨begun, rfl⟩ := endsIn
  exact ⟨before ++ begun, String.append_assoc.symm⟩

theorem EndsIn.suffix {path ending : String} (endsIn : EndsIn path ending) :
    ending.toList <:+ path.toList := by
  obtain ⟨begun, rfl⟩ := endsIn
  rw [String.toList_append]
  exact List.suffix_append begun.toList ending.toList

/-- The path of each file has the ending that belongs to its position. -/
theorem Interface.forall₂_endsIn (interface : Interface) (platform : Platform) :
    List.Forall₂ (fun file ending => EndsIn file.path ending) (interface.files platform)
      platform.endings := by
  have appended (literal ending : String) (endsIn : EndsIn literal ending) :
      EndsIn (platform.projectFolder ++ "/" ++ (interface.appName ++ literal)) ending :=
    (endsIn.append _).append _
  have whole (ending : String) : EndsIn (platform.projectFolder ++ "/" ++ ending) ending :=
    ⟨_, rfl⟩
  cases platform with
  | macos =>
      have inProject := appended ".xcodeproj/project.pbxproj" "project.pbxproj"
        ⟨".xcodeproj/", by decide⟩
      exact .cons (whole _) (.cons inProject (.cons (whole _) .nil))
  | windows =>
      have isSolution := appended ".sln" ".sln" ⟨"", by decide⟩
      have isProject := appended ".csproj" ".csproj" ⟨"", by decide⟩
      exact .cons (whole _) (.cons isSolution (.cons isProject
        (.cons (whole _) (.cons (whole _) .nil))))
  | linux => exact .cons (whole _) (.cons (whole _) .nil)

/-- No ending ends in another one, and none goes on behind a slash. -/
theorem Platform.endings_apart : ∀ first ∈ all, ∀ second ∈ all,
    ∀ ending ∈ first.endings.zipIdx, ∀ other ∈ second.endings.zipIdx,
      ending.1.toList <:+ other.1.toList → first = second ∧ ending.2 = other.2 := by
  decide

theorem Platform.slash_notMem_ending : ∀ platform ∈ all, ∀ ending ∈ platform.endings,
    '/' ∉ ending.toList := by
  decide

theorem Platform.mem_all (platform : Platform) : platform ∈ all := by
  cases platform <;> decide

/-- A text has the ending of at most one file of one platform. -/
theorem Platform.eq_of_endings {first second : Platform} {firstIndex secondIndex : Nat}
    {ending other : String} (isEnding : first.endings[firstIndex]? = some ending)
    (isOther : second.endings[secondIndex]? = some other) {text : String}
    (endsIn : EndsIn text ending) (endsInOther : EndsIn text other) :
    first = second ∧ firstIndex = secondIndex := by
  have isMember := List.mk_mem_zipIdx_iff_getElem?.mpr isEnding
  have otherIsMember := List.mk_mem_zipIdx_iff_getElem?.mpr isOther
  rcases List.suffix_or_suffix_of_suffix endsIn.suffix endsInOther.suffix with inOther | inEnding
  · exact endings_apart first first.mem_all second second.mem_all _ isMember _ otherIsMember inOther
  · have same := endings_apart second second.mem_all first first.mem_all _ otherIsMember _ isMember
      inEnding
    exact ⟨same.1.symm, same.2.symm⟩

/-- The ending of a file in a project is the ending of the last name of its path, wherever the
project goes. -/
theorem Interface.exists_ending {interface : Interface} {platform : Platform} {index : Nat}
    {file : GeneratedFile} (isFile : (interface.files platform)[index]? = some file)
    (folder : String) : ∃ ending, platform.endings[index]? = some ending ∧
      EndsIn (Path.lastName (Path.join folder file.path)) ending := by
  obtain ⟨within, rfl⟩ := List.getElem?_eq_some_iff.mp isFile
  have allEnd := interface.forall₂_endsIn platform
  have hasEnding : index < platform.endings.length := allEnd.length_eq ▸ within
  have noSlash := Platform.slash_notMem_ending platform platform.mem_all _
    (List.getElem_mem hasEnding)
  obtain ⟨begun, isPath⟩ := allEnd.get within hasEnding
  rw [List.get_eq_getElem] at isPath
  refine ⟨platform.endings[index], List.getElem?_eq_getElem hasEnding, ?_⟩
  obtain ⟨before, isJoined⟩ := Path.exists_join_eq folder (interface.files platform)[index].path
  rw [isJoined, isPath, ← String.append_assoc]
  exact Path.exists_lastName_append (before ++ begun) noSlash

/-- Files of projects of one interface whose paths have one last name are one file. -/
theorem Interface.eq_of_lastName_eq {interface : Interface} {first second : Platform}
    {firstIndex secondIndex : Nat} {file other : GeneratedFile}
    (isFile : (interface.files first)[firstIndex]? = some file)
    (isOther : (interface.files second)[secondIndex]? = some other) {folder : String}
    (sameName : Path.lastName (Path.join folder file.path) =
      Path.lastName (Path.join folder other.path)) :
    first = second ∧ firstIndex = secondIndex := by
  obtain ⟨ending, isEnding, endsIn⟩ := exists_ending isFile folder
  obtain ⟨otherEnding, isOtherEnding, endsInOther⟩ := exists_ending isOther folder
  rw [← sameName] at endsInOther
  exact Platform.eq_of_endings isEnding isOtherEnding endsIn endsInOther

/-- Each file of a project is found at its path. -/
theorem Interface.file?_eq_some {interface : Interface} {platform : Platform} {index : Nat}
    {file : GeneratedFile} (isFile : (interface.files platform)[index]? = some file) :
    (Project.mk (interface.files platform)).file? file.path = some file := by
  obtain ⟨within, isIndex⟩ := List.getElem?_eq_some_iff.mp isFile
  rw [Project.file?, List.find?_eq_some_iff_getElem]
  refine ⟨beq_self_eq_true file.path, index, within, isIndex, fun earlier isEarlier => ?_⟩
  have isOther := List.getElem?_eq_getElem (Nat.lt_trans isEarlier within)
  rw [Bool.not_eq_true', beq_eq_false_iff_ne]
  intro samePath
  have sameIndex := (eq_of_lastName_eq isOther isFile (congrArg (Path.lastName ∘ Path.join "")
    samePath)).2
  exact Nat.ne_of_lt isEarlier sameIndex

end Polyview
