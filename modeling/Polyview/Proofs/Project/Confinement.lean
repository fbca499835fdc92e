import Polyview.Proofs.Disk.Place
import Polyview.Proofs.Project.Layout

/-!
# Where generated files lie

The path of a generated file begins with the folder of its platform. Some paths go on with the name
of the application as it is, and a name with slashes and two points in it can lead out of that
folder again. It is the text before the last slash of the name that decides about this.
-/

namespace Polyview.Path

open Disk (IsOrdinary placeFrom stepFrom)

/-! ## Resolved paths -/

/-- The place that a name leads to from a place in a project. An empty name and a single point stay
there, and two points take the last name away. Nothing is known about the folders around the
project, so no name leads to them. -/
def resolveStep (place : List String) (name : String) : Option (List String) :=
  if name = "" ∨ name = "." then some place
  else if name = ".." then
    if place = [] then none else some place.dropLast
  else some (place ++ [name])

/-- The place that names lead to from a place in a project. -/
def resolve (place names : List String) : Option (List String) := names.foldlM resolveStep place

theorem resolve_cons (place : List String) (name : String) (rest : List String) :
    resolve place (name :: rest) = (resolveStep place name).bind (resolve · rest) :=
  rfl

theorem resolve_append (place first second : List String) :
    resolve place (first ++ second) = (resolve place first).bind (resolve · second) :=
  List.foldlM_append

theorem resolve_concat (place outer : List String) {last : String} (isOrdinary : IsOrdinary last) :
    resolve place (outer ++ [last]) = (resolve place outer).map (· ++ [last]) := by
  have step (around : List String) : resolve around [last] = some (around ++ [last]) := by
    rw [resolve_cons, resolveStep, if_neg (not_or.mpr ⟨isOrdinary.notEmpty, isOrdinary.notPoint⟩),
      if_neg isOrdinary.notPoints]
    rfl
  rw [resolve_append]
  simp only [step]
  exact Option.map_eq_bind.symm

/-- One step inside a project is the same step wherever the project is. -/
theorem stepFrom_append_of_resolveStep {place next : List String} {name : String}
    (resolved : resolveStep place name = some next) (root : List String) :
    stepFrom (root ++ place) name = root ++ next := by
  unfold resolveStep at resolved
  unfold stepFrom
  split at resolved
  next stays => rw [if_pos stays, Option.some.inj resolved]
  next moves =>
    rw [if_neg moves]
    split at resolved
    next isPoints =>
      split at resolved
      next => cases resolved
      next hasNames =>
        rw [if_pos isPoints, List.dropLast_append_of_ne_nil hasNames, Option.some.inj resolved]
    next notPoints => rw [if_neg notPoints, List.append_assoc, Option.some.inj resolved]

/-- Names that lead to a place in a project spell this place from the folder of the project. -/
theorem placeFrom_append_of_resolve {place found names : List String}
    (resolved : resolve place names = some found) (root : List String) :
    placeFrom (root ++ place) names = root ++ found := by
  induction names generalizing place with
  | nil => rw [← Option.some.inj resolved]; rfl
  | cons name names ih =>
      rw [resolve_cons, Option.bind_eq_some_iff] at resolved
      obtain ⟨next, step, resolved⟩ := resolved
      rw [placeFrom, List.foldl_cons, stepFrom_append_of_resolveStep step]
      exact ih resolved

/-- Without two points, names only lead further in. -/
theorem exists_resolve_of_notMem {names : List String} (neverBack : ".." ∉ names)
    (place : List String) : ∃ found, resolve place names = some found ∧ place <+: found := by
  induction names generalizing place with
  | nil => exact ⟨place, rfl, List.prefix_refl place⟩
  | cons name names ih =>
      obtain ⟨notPoints, neverBack⟩ := not_or.mp (mt List.mem_cons.mpr neverBack)
      have step : ∃ next, resolveStep place name = some next ∧ place <+: next := by
        unfold resolveStep
        split
        · exact ⟨place, rfl, List.prefix_refl place⟩
        · rw [if_neg (Ne.symm notPoints)]
          exact ⟨_, rfl, List.prefix_append place [name]⟩
      obtain ⟨next, isNext, isInside⟩ := step
      obtain ⟨found, isFound, isInsideNext⟩ := ih neverBack next
      exact ⟨found, by rw [resolve_cons, isNext, Option.bind_some, isFound],
        isInside.trans isInsideNext⟩

/-! ## Paths below a folder -/

/-- Names lead from a place in a project to a folder of the project, or below it. -/
def LeadInto (folder place names : List String) : Prop :=
  ∃ found, resolve place names = some found ∧ folder <+: found

/-- A path leads from the folder of a project to a place strictly below one of its folders. -/
def LiesBelow (folder : List String) (path : String) : Prop :=
  ∃ found, resolve [] (names path) = some found ∧ folder <+: found ∧ found ≠ folder

/-- The names before the last slash of a text do not lead out of a folder in the end. -/
def StaysInside (folder : List String) (text : String) : Prop :=
  LeadInto folder folder (names text).dropLast

variable {folder outer : List String} {path last : String}

theorem staysInside_of_notMem {text : String} (neverBack : ".." ∉ (names text).dropLast)
    (folder : List String) : StaysInside folder text :=
  exists_resolve_of_notMem neverBack folder

/-- What lies below a folder of a project lies there on the disk, too. -/
theorem LiesBelow.exists_placeFrom (liesBelow : LiesBelow folder path) (root : List String) :
    ∃ inner, inner ≠ [] ∧ placeFrom root (names path) = root ++ folder ++ inner := by
  obtain ⟨found, resolved, ⟨inner, rfl⟩, notFolder⟩ := liesBelow
  refine ⟨inner, ?_, ?_⟩
  · rintro rfl
    exact notFolder (List.append_nil folder)
  · have isPlace := placeFrom_append_of_resolve resolved root
    rwa [List.append_nil, ← List.append_assoc] at isPlace

theorem leadInto_concat_iff {place : List String} (isOrdinary : IsOrdinary last) :
    LeadInto folder place (outer ++ [last]) ↔
      ∃ found, resolve place outer = some found ∧ folder <+: found ++ [last] := by
  unfold LeadInto
  rw [resolve_concat place outer isOrdinary]
  simp only [Option.map_eq_some_iff, exists_exists_and_eq_and]

/-- An entry lies below a folder exactly if the names before it lead to this folder or below it. -/
theorem liesBelow_iff_of_names (areNames : names path = outer ++ [last])
    (isOrdinary : IsOrdinary last) : LiesBelow folder path ↔ LeadInto folder [] outer := by
  unfold LiesBelow
  rw [areNames, resolve_concat [] outer isOrdinary]
  constructor
  · rintro ⟨_, resolved, isInside, notFolder⟩
    obtain ⟨found, isFound, rfl⟩ := Option.map_eq_some_iff.mp resolved
    exact ⟨found, isFound,
      (List.prefix_concat_iff.mp isInside).resolve_left (Ne.symm notFolder)⟩
  · rintro ⟨found, isFound, isInside⟩
    refine ⟨found ++ [last], by rw [isFound, Option.map_some],
      isInside.trans (List.prefix_append found [last]), ?_⟩
    rintro rfl
    exact absurd isInside.length_le (by simp)

/-- Names whose last one is not the last one of a folder lead into it exactly if the names before do
so. -/
theorem leadInto_concat_iff_of_ne {place : List String} (isOrdinary : IsOrdinary last)
    (notLast : folder.getLast? ≠ some last) :
    LeadInto folder place (outer ++ [last]) ↔ LeadInto folder place outer := by
  rw [leadInto_concat_iff isOrdinary]
  unfold LeadInto
  have sameInside (found : List String) : folder <+: found ++ [last] ↔ folder <+: found := by
    rw [List.prefix_concat_iff]
    refine or_iff_right ?_
    rintro rfl
    exact notLast List.getLast?_concat
  simp only [sameInside]

end Polyview.Path

namespace Polyview

open Disk (IsOrdinary)
open Polyview.Path (LeadInto LiesBelow StaysInside names)

/-! ## Paths of a project -/

namespace Platform

/-- What is appended to the name of the application in paths that go on with it. -/
def namedEndings : Platform → List String
  | .macos => [".xcodeproj/project.pbxproj"]
  | .windows => [".sln", ".csproj"]
  | .linux => []

/-- The paths that go on with the name of the application. -/
def namedPaths (appName : String) (platform : Platform) : List String :=
  platform.namedEndings.map fun ending => platform.projectFolder ++ "/" ++ (appName ++ ending)

variable {appName path : String} {platform : Platform}

theorem namedPaths_subset (appName : String) (platform : Platform) :
    platform.namedPaths appName ⊆ platform.filePaths appName := by
  cases platform <;>
    simp [namedPaths, namedEndings, filePaths, boilerplate]

/-- The folder of a platform, named from the folder of the project. -/
theorem leadInto_projectFolder_iff (inner : List String) :
    LeadInto (names platform.projectFolder) [] (names platform.projectFolder ++ inner) ↔
      LeadInto (names platform.projectFolder) (names platform.projectFolder) inner := by
  have isFolder : Path.resolve [] (names platform.projectFolder) =
      some (names platform.projectFolder) := by
    cases platform <;> decide
  unfold LeadInto
  rw [Path.resolve_append, isFolder, Option.bind_some]

/-- A file with the name of the application at the beginning of its own name. -/
theorem liesBelow_append_iff {ending : String} (isLong : 2 < ending.length)
    (noSlash : '/' ∉ ending.toList) :
    LiesBelow (names platform.projectFolder)
        (platform.projectFolder ++ "/" ++ (appName ++ ending)) ↔
      StaysInside (names platform.projectFolder) appName := by
  have areNames : names (platform.projectFolder ++ "/" ++ (appName ++ ending)) =
      names platform.projectFolder ++ (names appName).dropLast ++
        [Path.lastName appName ++ ending] := by
    rw [Path.names_append_slash, Path.names_append_of_notMem appName noSlash, List.append_assoc]
  rw [Path.liesBelow_iff_of_names areNames (Disk.isOrdinary_append isLong _),
    leadInto_projectFolder_iff]
  rfl

/-- A file in a folder with the name of the application at the beginning of the folder's name. -/
theorem liesBelow_inside_iff {ending last : String} (isLong : 2 < ending.length)
    (noSlash : '/' ∉ ending.toList) (notSuffix : ¬ ending.toList <:+ platform.folder.toList)
    (isOrdinary : IsOrdinary last) (noSlashInLast : '/' ∉ last.toList) :
    LiesBelow (names platform.projectFolder)
        (platform.projectFolder ++ "/" ++ (appName ++ ending) ++ "/" ++ last) ↔
      StaysInside (names platform.projectFolder) appName := by
  have areNames : names (platform.projectFolder ++ "/" ++ (appName ++ ending) ++ "/" ++ last) =
      names platform.projectFolder ++ (names appName).dropLast ++
        [Path.lastName appName ++ ending] ++ [last] := by
    rw [Path.names_append_name noSlashInLast, Path.names_append_slash,
      Path.names_append_of_notMem appName noSlash, ← List.append_assoc]
  -- The folder of the file cannot be the folder of the platform, which has another ending.
  have notLast : (names platform.projectFolder).getLast? ≠
      some (Path.lastName appName ++ ending) := by
    rw [names_projectFolder]
    intro isLast
    have isFolder : platform.folder = Path.lastName appName ++ ending := Option.some.inj isLast
    rw [isFolder, String.toList_append] at notSuffix
    exact notSuffix (List.suffix_append _ _)
  rw [Path.liesBelow_iff_of_names areNames isOrdinary,
    Path.leadInto_concat_iff_of_ne (Disk.isOrdinary_append isLong _) notLast,
    leadInto_projectFolder_iff]
  rfl

/-- A path with the name of the application in it leads below the folder of the platform exactly if
the name does not lead out of this folder. -/
theorem liesBelow_iff_of_mem_namedPaths (member : path ∈ platform.namedPaths appName) :
    LiesBelow (names platform.projectFolder) path ↔
      StaysInside (names platform.projectFolder) appName := by
  obtain ⟨ending, isEnding, rfl⟩ := List.mem_map.mp member
  cases platform with
  | macos =>
      obtain rfl := List.mem_singleton.mp isEnding
      have isLiteral : ".xcodeproj/project.pbxproj" = ".xcodeproj" ++ "/" ++ "project.pbxproj" := by
        decide
      have inside : LiesBelow (names macos.projectFolder)
          (macos.projectFolder ++ "/" ++ (appName ++ ".xcodeproj") ++ "/" ++ "project.pbxproj") ↔
            StaysInside (names macos.projectFolder) appName :=
        liesBelow_inside_iff (by decide) (by decide) (by decide)
          ⟨by decide, by decide, by decide⟩ (by decide)
      simpa only [isLiteral, String.append_assoc] using inside
  | windows =>
      simp only [namedEndings, List.mem_cons, List.not_mem_nil, or_false] at isEnding
      rcases isEnding with rfl | rfl
      · exact liesBelow_append_iff (by decide) (by decide)
      · exact liesBelow_append_iff (by decide) (by decide)
  | linux => exact absurd isEnding List.not_mem_nil

/-- The other files are right in the folder of the platform. -/
theorem liesBelow_of_notMem_namedPaths (member : path ∈ platform.filePaths appName)
    (notNamed : path ∉ platform.namedPaths appName) :
    LiesBelow (names platform.projectFolder) path := by
  have inFolder {last : String} (isLong : 2 < last.length) (noSlash : '/' ∉ last.toList) :
      LiesBelow (names platform.projectFolder) (platform.projectFolder ++ "/" ++ last) := by
    have isInside : StaysInside (names platform.projectFolder) "" :=
      Path.staysInside_of_notMem (by decide) _
    have liesBelow := (liesBelow_append_iff isLong noSlash).mpr isInside
    rwa [String.empty_append] at liesBelow
  cases platform <;>
    simp only [filePaths, boilerplate, namedPaths, namedEndings, List.map_cons, List.map_nil,
      List.mem_cons, List.not_mem_nil, or_false] at member notNamed
  case macos =>
    rcases member with rfl | isNamed | rfl
    · exact inFolder (by decide) (by decide)
    · exact absurd isNamed notNamed
    · exact inFolder (by decide) (by decide)
  case windows =>
    rcases member with rfl | isNamed | isNamed | rfl | rfl
    · exact inFolder (by decide) (by decide)
    · exact absurd (.inl isNamed) notNamed
    · exact absurd (.inr isNamed) notNamed
    · exact inFolder (by decide) (by decide)
    · exact inFolder (by decide) (by decide)
  case linux =>
    rcases member with rfl | rfl
    · exact inFolder (by decide) (by decide)
    · exact inFolder (by decide) (by decide)

theorem liesBelow_iff_of_mem_filePaths (member : path ∈ platform.filePaths appName) :
    LiesBelow (names platform.projectFolder) path ↔
      (path ∈ platform.namedPaths appName →
        StaysInside (names platform.projectFolder) appName) := by
  by_cases isNamed : path ∈ platform.namedPaths appName
  · rw [liesBelow_iff_of_mem_namedPaths isNamed]
    exact ⟨fun staysInside _ => staysInside, fun staysInside => staysInside isNamed⟩
  · have liesBelow := liesBelow_of_notMem_namedPaths member isNamed
    exact iff_of_true liesBelow fun named => absurd named isNamed

theorem exists_mem_namedPaths (appName : String) (notLinux : platform ≠ .linux) :
    ∃ path, path ∈ platform.namedPaths appName := by
  cases platform with
  | macos => exact ⟨_, List.mem_cons_self⟩
  | windows => exact ⟨_, List.mem_cons_self⟩
  | linux => exact absurd rfl notLinux

/-- All paths of a project lead below the folder of the platform exactly if no path has the name of
the application in it, or the name does not lead out of this folder. -/
theorem filePaths_liesBelow_iff (appName : String) (platform : Platform) :
    (∀ path ∈ platform.filePaths appName, LiesBelow (names platform.projectFolder) path) ↔
      platform = .linux ∨ StaysInside (names platform.projectFolder) appName := by
  constructor
  · intro allLieBelow
    by_cases isLinux : platform = .linux
    · exact .inl isLinux
    · obtain ⟨path, isNamed⟩ := exists_mem_namedPaths appName isLinux
      have liesBelow := allLieBelow path (namedPaths_subset appName platform isNamed)
      exact .inr ((liesBelow_iff_of_mem_namedPaths isNamed).mp liesBelow)
  · intro stays path member
    refine (liesBelow_iff_of_mem_filePaths member).mpr fun isNamed => ?_
    rcases stays with rfl | staysInside
    · exact absurd isNamed List.not_mem_nil
    · exact staysInside

end Platform

/-- For a name without two points before its last slash, every file belongs below the folder of its
platform, wherever the project is. -/
theorem Interface.file_belongs_below {interface : Interface} {platform : Platform}
    (neverBack : ".." ∉ (names interface.appName).dropLast) {file : GeneratedFile}
    (member : file ∈ interface.files platform) (root : List String) :
    ∃ inner, inner ≠ [] ∧ Disk.placeFrom root (names file.path) =
      root ++ names platform.projectFolder ++ inner := by
  have staysInside := Path.staysInside_of_notMem neverBack (names platform.projectFolder)
  have allLieBelow := (Platform.filePaths_liesBelow_iff _ platform).mpr (.inr staysInside)
  exact (allLieBelow _ (Platform.path_mem_filePaths member)).exists_placeFrom root

/-- A project can always be generated. Each of its files lies below the folder of the platform,
except for those that have the name of the application in their paths, which lie there exactly if
the name does not lead out of this folder. -/
theorem project_files_lie_below_iff (interface : Interface) (platform : Platform) :
    ∃ project, interface.project platform = .ok project ∧
      (∀ file ∈ project.files, LiesBelow (names platform.projectFolder) file.path ↔
        (file.path ∈ platform.namedPaths interface.appName →
          StaysInside (names platform.projectFolder) interface.appName)) ∧
      ((∀ file ∈ project.files, LiesBelow (names platform.projectFolder) file.path) ↔
        platform = .linux ∨
          StaysInside (names platform.projectFolder) interface.appName) := by
  refine ⟨_, interface.project_eq_ok platform, fun file member =>
    Platform.liesBelow_iff_of_mem_filePaths (Platform.path_mem_filePaths member), ?_⟩
  rw [← Platform.filePaths_liesBelow_iff, ← Platform.map_path_files, List.forall_mem_map]

/-- A name that leads two folders up takes its file out of the folder of the platform. -/
theorem project_file_can_lie_outside :
    ∃ project file,
      Interface.project ⟨"../../x", .label "Hello", .empty, true⟩ .macos = .ok project ∧
      file ∈ project.files ∧
      file.path = "Build/macOS/../../x.xcodeproj/project.pbxproj" ∧
      Path.resolve [] (names file.path) = some ["x.xcodeproj", "project.pbxproj"] ∧
      ¬ LiesBelow ["Build", "macOS"] file.path := by
  have resolved : Path.resolve [] (names "Build/macOS/../../x.xcodeproj/project.pbxproj") =
      some ["x.xcodeproj", "project.pbxproj"] := by
    decide
  refine ⟨_, _, Interface.project_eq_ok _ .macos, List.mem_cons_of_mem _ List.mem_cons_self,
    by decide, ?_, ?_⟩
  · exact resolved
  · rintro ⟨found, isFound, isInside, -⟩
    rw [← Option.some.inj (resolved.symm.trans isFound)] at isInside
    exact absurd isInside (by decide)

end Polyview
