import Polyview.Proofs.Disk.Layout
import Polyview.Proofs.Project.Generation
import Polyview.Project.Starter

/-!
# Paths of generated files

For a name that a folder can have, and that leaves room for what is appended to it, the paths of
generated files are plain, and none of the files is on the way to another one.
-/

namespace Polyview

open Disk (IsOrdinary IsEntryName)
open Disk.Machine (IsLayout)
open Polyview.Path (IsPlain names)

/-- A name for the folder of a project, short enough that names can go on from it. -/
structure IsProjectName (name : String) : Prop extends IsOrdinary name where
  noSlash : '/' ∉ name.toList
  noNul : '\x00' ∉ name.toList
  isShort : name.utf8ByteSize ≤ 200

variable {appName : String}

theorem IsProjectName.isEntryName (isName : IsProjectName appName) : IsEntryName appName where
  toIsOrdinary := isName.toIsOrdinary
  noSlash := isName.noSlash
  fits := Nat.le_trans isName.isShort (by decide)

theorem IsProjectName.isEntryName_append (isName : IsProjectName appName) {ending : String}
    (isLong : 2 < ending.length) (isShort : ending.utf8ByteSize ≤ 55)
    (noSlash : '/' ∉ ending.toList) : IsEntryName (appName ++ ending) := by
  refine ⟨Disk.isOrdinary_append isLong appName, ?_, ?_⟩
  · rw [String.toList_append, List.mem_append]
    exact not_or.mpr ⟨isName.noSlash, noSlash⟩
  · have isShortName := isName.isShort
    have limit : Disk.longestName = 255 := rfl
    rw [String.utf8ByteSize_append]
    omega

theorem IsProjectName.isEntryName_xcodeproj (isName : IsProjectName appName) :
    IsEntryName (appName ++ ".xcodeproj") :=
  isName.isEntryName_append (by decide) (by decide) (by decide)

namespace Platform

/-- The paths of the files of a project, in the order of the files. -/
def filePaths (appName : String) (platform : Platform) : List String :=
  (platform.projectFolder ++ "/" ++ platform.interfaceFile) ::
    (platform.boilerplate appName).map fun (fileName, _) => platform.projectFolder ++ "/" ++ fileName

/-- How many files a project has. -/
def fileCount : Platform → Nat
  | .macos => 3
  | .windows => 5
  | .linux => 2

theorem length_filePaths (appName : String) (platform : Platform) :
    (platform.filePaths appName).length = platform.fileCount := by
  cases platform <;> rfl

theorem map_path_files (interface : Interface) (platform : Platform) :
    (interface.files platform).map GeneratedFile.path = platform.filePaths interface.appName := by
  rw [Interface.files, filePaths, List.map_cons, List.map_map]
  rfl

theorem path_mem_filePaths {interface : Interface} {platform : Platform} {file : GeneratedFile}
    (member : file ∈ interface.files platform) :
    file.path ∈ platform.filePaths interface.appName :=
  map_path_files interface platform ▸ List.mem_map_of_mem member

/-- The shape of the path of a generated file. Only one file is in a folder of its own. -/
inductive IsFilePath (appName : String) (platform : Platform) : String → Prop
  | inFolder {last : String} (isEntryName : IsEntryName last) (noNul : '\x00' ∉ last.toList)
      (notProject : last ≠ appName ++ ".xcodeproj") :
      IsFilePath appName platform (platform.projectFolder ++ "/" ++ last)
  | inProject :
      IsFilePath appName platform
        (platform.projectFolder ++ "/" ++ (appName ++ ".xcodeproj") ++ "/" ++ "project.pbxproj")

theorem isFilePath_of_literal {last : String} (isEntryName : IsEntryName last)
    (noNul : '\x00' ∉ last.toList) (notSuffix : ¬ ".xcodeproj".toList <:+ last.toList)
    (appName : String) (platform : Platform) :
    IsFilePath appName platform (platform.projectFolder ++ "/" ++ last) := by
  refine .inFolder isEntryName noNul ?_
  rintro rfl
  rw [String.toList_append] at notSuffix
  exact notSuffix (List.suffix_append _ _)

theorem isFilePath_of_ending (isName : IsProjectName appName) {ending : String}
    (isLong : 2 < ending.length) (isShort : ending.utf8ByteSize ≤ 55)
    (noSlash : '/' ∉ ending.toList) (noNul : '\x00' ∉ ending.toList)
    (notProject : ending ≠ ".xcodeproj") (platform : Platform) :
    IsFilePath appName platform (platform.projectFolder ++ "/" ++ (appName ++ ending)) := by
  refine .inFolder (isName.isEntryName_append isLong isShort noSlash) ?_ ?_
  · rw [String.toList_append, List.mem_append]
    exact not_or.mpr ⟨isName.noNul, noNul⟩
  · simpa using notProject

theorem isFilePath_of_mem (isName : IsProjectName appName) (platform : Platform) :
    ∀ path ∈ platform.filePaths appName, IsFilePath appName platform path := by
  intro path member
  cases platform with
  | macos =>
      simp only [filePaths, boilerplate, List.map_cons, List.map_nil, List.mem_cons,
        List.not_mem_nil, or_false] at member
      rcases member with rfl | rfl | rfl
      · exact isFilePath_of_literal (by decide) (by decide) (by decide) _ _
      · have isLiteral : ".xcodeproj/project.pbxproj" =
            ".xcodeproj" ++ "/" ++ "project.pbxproj" := by
          decide
        have isPath : IsFilePath appName .macos _ := .inProject
        simpa only [isLiteral, String.append_assoc] using isPath
      · exact isFilePath_of_literal (by decide) (by decide) (by decide) _ _
  | windows =>
      simp only [filePaths, boilerplate, List.map_cons, List.map_nil, List.mem_cons,
        List.not_mem_nil, or_false] at member
      rcases member with rfl | rfl | rfl | rfl | rfl
      · exact isFilePath_of_literal (by decide) (by decide) (by decide) _ _
      · exact isFilePath_of_ending isName (by decide) (by decide) (by decide) (by decide)
          (by decide) _
      · exact isFilePath_of_ending isName (by decide) (by decide) (by decide) (by decide)
          (by decide) _
      · exact isFilePath_of_literal (by decide) (by decide) (by decide) _ _
      · exact isFilePath_of_literal (by decide) (by decide) (by decide) _ _
  | linux =>
      simp only [filePaths, boilerplate, List.map_cons, List.map_nil, List.mem_cons,
        List.not_mem_nil, or_false] at member
      rcases member with rfl | rfl
      · exact isFilePath_of_literal (by decide) (by decide) (by decide) _ _
      · exact isFilePath_of_literal (by decide) (by decide) (by decide) _ _

theorem isPlain_projectFolder (platform : Platform) : IsPlain platform.projectFolder := by
  have isPath : platform.projectFolder = "Build" ++ "/" ++ platform.folder := by
    cases platform <;> decide
  have isFolder : IsEntryName platform.folder := by
    cases platform <;> decide
  rw [isPath]
  exact .inside (.name (by decide)) isFolder

theorem names_projectFolder (platform : Platform) :
    names platform.projectFolder = ["Build", platform.folder] := by
  cases platform <;> decide

theorem noNul_projectFolder (platform : Platform) : '\x00' ∉ platform.projectFolder.toList := by
  cases platform <;> decide

namespace IsFilePath

variable {platform : Platform} {path : String}

theorem isInside (isName : IsProjectName appName) (isPath : IsFilePath appName platform path) :
    ∃ outer name, IsPlain outer ∧ IsEntryName name ∧ path = outer ++ "/" ++ name := by
  cases isPath with
  | inFolder isEntryName noNul notProject =>
      exact ⟨_, _, platform.isPlain_projectFolder, isEntryName, rfl⟩
  | inProject =>
      exact ⟨_, _, .inside platform.isPlain_projectFolder isName.isEntryName_xcodeproj,
        by decide, rfl⟩

theorem noNul (isName : IsProjectName appName) (isPath : IsFilePath appName platform path) :
    '\x00' ∉ path.toList := by
  have noNulInFolder := platform.noNul_projectFolder
  have noNulInName := isName.noNul
  cases isPath with
  | inFolder isEntryName noNul notProject => simp [noNulInFolder, noNul]
  | inProject => simp [noNulInFolder, noNulInName]

/-- The names on the way to a generated file. -/
theorem names_eq (isName : IsProjectName appName) (isPath : IsFilePath appName platform path) :
    (∃ last, last ≠ appName ++ ".xcodeproj" ∧ names path = ["Build", platform.folder, last]) ∨
    names path = ["Build", platform.folder, appName ++ ".xcodeproj", "project.pbxproj"] := by
  cases isPath with
  | @inFolder last isEntryName noNul notProject =>
      left
      refine ⟨last, notProject, ?_⟩
      rw [Path.names_append_name isEntryName.noSlash, names_projectFolder]
      rfl
  | inProject =>
      right
      rw [Path.names_append_name (by decide),
        Path.names_append_name isName.isEntryName_xcodeproj.noSlash, names_projectFolder]
      rfl

theorem exists_names_eq_cons (isName : IsProjectName appName)
    (isPath : IsFilePath appName platform path) : ∃ rest, names path = "Build" :: rest := by
  rcases isPath.names_eq isName with ⟨last, -, areNames⟩ | areNames
  · exact ⟨_, areNames⟩
  · exact ⟨_, areNames⟩

/-- No generated file is the folder of another one. -/
theorem apart (isName : IsProjectName appName) {other : Platform} {otherPath : String}
    (isPath : IsFilePath appName platform path) (isOtherPath : IsFilePath appName other otherPath)
    (isPrefix : names path <+: names otherPath) : names path = names otherPath := by
  apply isPrefix.eq_of_length
  have isShorter := isPrefix.length_le
  rcases isPath.names_eq isName with ⟨last, notProject, areNames⟩ | areNames <;>
    rcases isOtherPath.names_eq isName with ⟨otherLast, -, areOtherNames⟩ | areOtherNames <;>
    rw [areNames, areOtherNames] at isPrefix isShorter ⊢
  · rfl
  · simp only [List.cons_prefix_cons] at isPrefix
    exact absurd isPrefix.2.2.1 notProject
  · exact absurd isShorter (by simp)
  · rfl

end IsFilePath

theorem exists_isFilePath (isName : IsProjectName appName) {platforms : List Platform}
    {path : String} (member : path ∈ platforms.flatMap (filePaths appName)) :
    ∃ platform, IsFilePath appName platform path := by
  obtain ⟨platform, -, isPath⟩ := List.mem_flatMap.mp member
  exact ⟨platform, isFilePath_of_mem isName platform path isPath⟩

theorem isLayout_filePaths (isName : IsProjectName appName) {platforms : List Platform}
    {stem : String} (noNul : '\x00' ∉ stem.toList)
    (fits : ∀ path ∈ platforms.flatMap (filePaths appName),
      (stem ++ path).utf8ByteSize ≤ Disk.longestPath) :
    IsLayout stem (platforms.flatMap (filePaths appName)) where
  accepted path member := by
    obtain ⟨platform, isPath⟩ := exists_isFilePath isName member
    obtain ⟨outer, name, isPlain, isEntryName, isInside⟩ := isPath.isInside isName
    exact Disk.checkPath_append noNul (isPath.noNul isName) (by simp [isInside]) (fits path member)
  isInside path member := by
    obtain ⟨platform, isPath⟩ := exists_isFilePath isName member
    exact isPath.isInside isName
  apart first isFirst second isSecond := by
    obtain ⟨platform, isPath⟩ := exists_isFilePath isName isFirst
    obtain ⟨other, isOtherPath⟩ := exists_isFilePath isName isSecond
    exact isPath.apart isName isOtherPath

end Platform

/-! ## New projects -/

namespace Starter

/-- The paths of the files of a new project, in the order of the files. -/
def filePaths (name : String) : List String :=
  [manifestFile, defaultEntry].map fun inner => name ++ "/" ++ inner

theorem names_of_mem_filePaths {name : String} (isName : IsProjectName name) {path : String}
    (member : path ∈ filePaths name) :
    names path = [name, "crossui.toml"] ∨ names path = [name, "views", "ContentView.json"] := by
  have isManifest : names manifestFile = ["crossui.toml"] := by decide
  have isEntry : names defaultEntry = ["views", "ContentView.json"] := by decide
  simp only [filePaths, List.map_cons, List.map_nil, List.mem_cons, List.not_mem_nil,
    or_false] at member
  rcases member with rfl | rfl
  · left
    rw [Path.names_append_slash, Path.names_of_noSlash isName.noSlash, isManifest]
    rfl
  · right
    rw [Path.names_append_slash, Path.names_of_noSlash isName.noSlash, isEntry]
    rfl

theorem isInside_of_mem {name : String} (isName : IsProjectName name) :
    ∀ path ∈ filePaths name, ∃ outer last, IsPlain outer ∧ IsEntryName last ∧
      path = outer ++ "/" ++ last ∧ '\x00' ∉ path.toList := by
  have isPlain : IsPlain name := .name isName.isEntryName
  have isView : defaultEntry = "views" ++ "/" ++ "ContentView.json" := by decide
  intro path member
  simp only [filePaths, List.map_cons, List.map_nil, List.mem_cons, List.not_mem_nil,
    or_false] at member
  rcases member with rfl | rfl
  · exact ⟨name, manifestFile, isPlain, by decide, rfl, by simp [isName.noNul, manifestFile]⟩
  · refine ⟨name ++ "/" ++ "views", "ContentView.json", .inside isPlain (by decide), by decide, ?_,
      by simp [isName.noNul, defaultEntry]⟩
    rw [isView]
    simp only [String.append_assoc]

theorem isLayout_filePaths {name : String} (isName : IsProjectName name) {stem : String}
    (noNul : '\x00' ∉ stem.toList)
    (fits : ∀ path ∈ filePaths name, (stem ++ path).utf8ByteSize ≤ Disk.longestPath) :
    IsLayout stem (filePaths name) where
  accepted path member := by
    obtain ⟨outer, last, -, -, isInside, noNulInPath⟩ := isInside_of_mem isName path member
    exact Disk.checkPath_append noNul noNulInPath (by simp [isInside]) (fits path member)
  isInside path member := by
    obtain ⟨outer, last, isPlain, isEntryName, isInside, -⟩ := isInside_of_mem isName path member
    exact ⟨outer, last, isPlain, isEntryName, isInside⟩
  apart first isFirst second isSecond isPrefix := by
    rcases names_of_mem_filePaths isName isFirst with areFirst | areFirst <;>
      rcases names_of_mem_filePaths isName isSecond with areSecond | areSecond <;>
      rw [areFirst, areSecond] at isPrefix ⊢
    · simp at isPrefix
    · simp at isPrefix

end Starter

end Polyview
