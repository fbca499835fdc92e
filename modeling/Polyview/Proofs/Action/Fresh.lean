import Polyview.Proofs.Action.Filling
import Polyview.Proofs.Action.Starting
import Polyview.Proofs.Document.RoundTrip
import Polyview.Proofs.Project.Layout

/-!
# Building a new project

A project that has just been started can be built as it is. Its manifest is read as what was asked
for, its entry document has views, and where nothing stood under the name of the project, nothing
stands in the way of the files that are generated for it.
-/

namespace Polyview.Action

open Disk (Machine Tree)
open Disk.Machine (host WroteAll LeadsInto HasRoom IsLayout ChangesToward)
open Polyview.Path (beginning names IsPlain)

variable {before started after : Machine} {place : List String} {parent name : String}

/-! ## Reading the manifest -/

theorem perform_loadManifest_eq_ok {path text : String} {manifest : Manifest}
    (isText : before.readText path = .ok text) (isManifest : Manifest.ofText? text = some manifest) :
    before.perform (loadManifest host (some path)) =
      (.ok ⟨manifest, manifestFolder path⟩, before) := by
  have isRead : before.perform (orFail (fun fault => (Cause.disk fault).error)
      (host.readText path)) = (.ok text, before) :=
    perform_orFail_of_ok _ (Prod.ext isText rfl)
  have isKnown : before.perform (orFail id (pure (readManifest text))) = (.ok manifest, before) := by
    rw [readManifest, isManifest]
    rfl
  rw [loadManifest]
  exact perform_bind_eq_ok.mpr ⟨text, before, perform_within_of_ok _ isRead,
    perform_bind_eq_ok.mpr ⟨manifest, before, perform_within_of_ok _ isKnown, rfl⟩⟩

/-- The manifest of a new project, as it is loaded from the folder of the project. -/
def freshManifest (parent name : String) (platforms : List Platform) : LoadedManifest where
  manifest :=
    { appName := name
      entry := defaultEntry
      outputFolder := "."
      platforms := platforms
      escapes := false }
  folder := Path.join parent name

theorem join_name (isName : IsProjectName name) (parent : String) :
    Path.join parent name = beginning parent ++ name :=
  Path.join_of_relative (IsPlain.name isName.isEntryName).isAbsolute_eq_false parent

/-- A path below the folder of a project. -/
theorem join_join (isName : IsProjectName name) {inner : String}
    (isRelative : Path.isAbsolute inner = false) (parent : String) :
    Path.join (Path.join parent name) inner = Path.join parent (name ++ "/" ++ inner) := by
  have isPlain := IsPlain.name isName.isEntryName
  have isRelativeWhole : Path.isAbsolute (name ++ "/" ++ inner) = false := by
    rw [String.append_assoc, Path.isAbsolute_append isPlain.ne_empty, isPlain.isAbsolute_eq_false]
  rw [join_name isName, Path.join_append_name isName.isEntryName isRelative,
    Path.join_of_relative isRelativeWhole]

theorem manifestFolder_eq (isName : IsProjectName name) (parent : String) :
    manifestFolder (Path.join (Path.join parent name) manifestFile) = Path.join parent name := by
  have isManifest : Disk.IsEntryName manifestFile := by decide
  have isParent := (IsPlain.name isName.isEntryName).parent?_inside isManifest (beginning parent)
  have notEmpty : (beginning parent ++ name).isEmpty = false := by
    simp [isName.notEmpty]
  rw [join_name isName, Path.join_append_name isName.isEntryName (by decide), manifestFolder,
    isParent]
  simp only [notEmpty]
  rfl

theorem perform_loadManifest_of_started (isName : IsProjectName name) {platforms : List Platform}
    (wrote : before.WroteAll ((Starter.files name platforms).map (placed parent)) started) :
    started.perform (loadManifest host (some (Path.join (Path.join parent name) manifestFile))) =
      (.ok (freshManifest parent name platforms), started) := by
  have isText := wrote.readText_eq (agree_of_wroteFiles wrote)
    (List.mem_map_of_mem (f := placed parent) List.mem_cons_self)
  rw [placed, ← join_join isName (by decide)] at isText
  have isLoaded := perform_loadManifest_eq_ok isText (Starter.ofText?_manifestText name platforms)
  rw [manifestFolder_eq isName] at isLoaded
  exact isLoaded

/-! ## The entry document -/

/-- The interface of a new project. -/
def freshInterface (name : String) : Interface where
  appName := name
  root := .stack [.label "Hello, CrossUI!", .label "This is your main content view.",
    .field "Your name" (.cell ⟨0⟩)]
  store := ⟨[""], []⟩
  escapes := false

theorem describes_freshInterface (isName : IsProjectName name) {platforms : List Platform}
    (wrote : before.WroteAll ((Starter.files name platforms).map (placed parent)) started) :
    DescribesInterface started (freshManifest parent name platforms) (freshInterface name) := by
  have isText := wrote.readText_eq (agree_of_wroteFiles wrote)
    (List.mem_map_of_mem (f := placed parent) (List.mem_cons_of_mem _ List.mem_cons_self))
  rw [placed, ← join_join isName (by decide)] at isText
  have isDocument : Document.ofJson (Starter.document.pretty ++ "\n") = .ok Starter.document :=
    Document.ofJson_pretty_append_newLine Starter.document (by decide)
  have isView : Starter.document.toView .empty =
      .ok ((freshInterface name).root, (freshInterface name).store) :=
    rfl
  exact DescribesInterface.ofEntry isText isDocument isView

/-! ## Starting and building -/

theorem map_path_starterFiles (name : String) (platforms : List Platform) :
    (Starter.files name platforms).map GeneratedFile.path = Starter.filePaths name :=
  rfl

/-- Below a folder with nothing under the name of a project, the project is started. -/
theorem exists_startProject (isName : IsProjectName name)
    (leadsInto : before.LeadsInto (beginning parent) place)
    (isFree : before.tree.item? (place ++ [name]) = none)
    (isLayout : IsLayout (beginning parent) (Starter.filePaths name)) (listed : List Platform) :
    ∃ started, before.perform (startProject host parent name listed) =
        (.ok (Path.join parent name), started) ∧
      started.LeadsInto (beginning parent) place ∧
      before.ChangesToward ((Starter.filePaths name).map fun text => place ++ names text)
        started := by
  have isPlain := IsPlain.name isName.isEntryName
  have areNames := Path.names_of_noSlash isName.noSlash
  have startWith (text : String) (member : text ∈ Starter.filePaths name) :
      ∃ rest, names text = name :: rest := by
    rcases Starter.names_of_mem_filePaths isName member with areListed | areListed
    · exact ⟨_, areListed⟩
    · exact ⟨_, areListed⟩
  have hasRoom := Machine.hasRoom_of_free leadsInto isFree startWith
  have nowhere : before.has (Path.join parent name) = false := by
    rw [join_name isName]
    apply leadsInto.has_eq_false isPlain
    · rw [areNames, List.dropLast_singleton, List.append_nil]
      exact Disk.isOpen_of_folder leadsInto.isFolder
    · rw [areNames]
      exact isFree
  have members (file : GeneratedFile) (member : file ∈ Starter.files name (platformsOr listed)) :
      file.path ∈ Starter.filePaths name := by
    rw [← map_path_starterFiles name (platformsOr listed)]
    exact List.mem_map_of_mem member
  obtain ⟨paths, written, isWritten, hasRoomLater, changes⟩ :=
    exists_writeFiles hasRoom isLayout members
  have hasRoomPrinted := hasRoom_print hasRoomLater
    ("New CrossUI project created at " ++ Path.join parent name ++ "\n")
  refine ⟨_, ?_, hasRoomPrinted.leadsInto, ⟨changes.here, changes.entries⟩⟩
  rw [perform_startProject, nowhere, if_neg Bool.false_ne_true]
  exact perform_bind_eq_ok.mpr ⟨paths, written, perform_within_of_ok _ isWritten,
    perform_bind_eq_ok.mpr ⟨(), _, rfl, rfl⟩⟩

theorem beginning_outputPath (isName : IsProjectName name) (parent : String)
    (platforms : List Platform) :
    beginning (freshManifest parent name platforms).outputPath =
      beginning (Path.join parent name) ++ "./" := by
  have pointIsRelative : Path.isAbsolute "." = false := by decide
  have isOutput : (freshManifest parent name platforms).outputPath =
      Path.join parent name ++ "/" ++ "." := by
    rw [LoadedManifest.outputPath, freshManifest, join_name isName,
      Path.join_append_name isName.isEntryName pointIsRelative]
    simp only [String.append_assoc]
  have isLiteral : "./" = "." ++ "/" := by decide
  rw [isOutput, join_name isName, Path.beginning_append isName.isEntryName, beginning,
    if_neg (by simp), isLiteral]
  simp only [String.append_assoc]

/-- Paths below the folder of a project that has been started lead below the folder of its own. -/
theorem leadsInto_outputPath (isName : IsProjectName name) {platforms : List Platform}
    (leadsInto : started.LeadsInto (beginning parent) place)
    (wrote : before.WroteAll ((Starter.files name platforms).map (placed parent)) started) :
    started.LeadsInto (beginning (freshManifest parent name platforms).outputPath)
      (place ++ [name]) := by
  have isPlain := IsPlain.name isName.isEntryName
  -- The manifest is in the folder of the project, so the path of this folder leads to a folder.
  have leads := wrote.leads _ (List.mem_map_of_mem (f := placed parent) List.mem_cons_self)
  rw [placed, ← join_join isName (by decide), join_name isName,
    Path.join_append_name isName.isEntryName (by decide), ← String.append_assoc,
    ← String.append_assoc] at leads
  obtain ⟨work, leadsToWork, isFolder, -⟩ :=
    leads.parted (by simp [isPlain.ne_empty]) (by decide) (by decide)
  have isWork := leadsInto.eq_of_leads isPlain leadsToWork
  rw [Path.names_of_noSlash isName.noSlash] at isWork
  rw [isWork, ← join_name isName] at leadsToWork
  rw [beginning_outputPath isName]
  exact (LeadsInto.of_leads leadsToWork (isWork ▸ isFolder)).append_point

/-- The paths of all files that a new project and its first build write. -/
def freshPaths (parent name : String) (platforms : List Platform) : List String :=
  projectPaths parent name ++ (platforms.flatMap (Platform.filePaths name)).map
    (Path.join (freshManifest parent name platforms).outputPath)

theorem noNul_beginning {path : String} (noNul : '\x00' ∉ path.toList) :
    '\x00' ∉ (beginning path).toList := by
  unfold beginning
  split
  · exact noNul
  · simpa using noNul

theorem isLayout_project (isName : IsProjectName name) {platforms : List Platform}
    (noNul : '\x00' ∉ parent.toList)
    (fits : ∀ path ∈ freshPaths parent name platforms, path.utf8ByteSize ≤ Disk.longestPath) :
    IsLayout (beginning parent) (Starter.filePaths name) := by
  apply Starter.isLayout_filePaths isName (noNul_beginning noNul)
  intro text member
  obtain ⟨outer, last, isPlain, isEntryName, isInside, -⟩ :=
    Starter.isInside_of_mem isName text member
  have isRelative : Path.isAbsolute text = false :=
    isInside ▸ (IsPlain.inside isPlain isEntryName).isAbsolute_eq_false
  obtain ⟨inner, isInner, rfl⟩ := List.mem_map.mp member
  have isPath := List.mem_map_of_mem (f := fun inner => Path.join parent (name ++ "/" ++ inner))
    isInner
  rw [← Path.join_of_relative isRelative]
  exact fits _ (List.mem_append_left _ isPath)

theorem isLayout_build (isName : IsProjectName name) {platforms : List Platform}
    (noNul : '\x00' ∉ parent.toList)
    (fits : ∀ path ∈ freshPaths parent name platforms, path.utf8ByteSize ≤ Disk.longestPath) :
    IsLayout (beginning (freshManifest parent name platforms).outputPath)
      (platforms.flatMap (Platform.filePaths name)) := by
  have noNulInStem :
      '\x00' ∉ (beginning (freshManifest parent name platforms).outputPath).toList := by
    have noNulInParent := noNul_beginning noNul
    have noNulInName := isName.noNul
    rw [beginning_outputPath isName, join_name isName, Path.beginning_append isName.isEntryName]
    simp [noNulInParent, noNulInName]
  apply Platform.isLayout_filePaths isName noNulInStem
  intro text member
  obtain ⟨platform, isPath⟩ := Platform.exists_isFilePath isName member
  obtain ⟨outer, last, isPlain, isEntryName, isInside⟩ := isPath.isInside isName
  have isRelative : Path.isAbsolute text = false :=
    isInside ▸ (IsPlain.inside isPlain isEntryName).isAbsolute_eq_false
  rw [← Path.join_of_relative isRelative]
  exact fits _ (List.mem_append_right _ (List.mem_map_of_mem member))

/-- Once a project has been started, nothing stands in the way of what is generated for it. -/
theorem hasRoom_for_build (isName : IsProjectName name) {platforms : List Platform}
    (isFree : before.tree.item? (place ++ [name]) = none)
    (leadsInto : started.LeadsInto (beginning parent) place)
    (wrote : before.WroteAll ((Starter.files name platforms).map (placed parent)) started)
    (changes : before.ChangesToward ((Starter.filePaths name).map fun text => place ++ names text)
      started) :
    started.HasRoom (beginning (freshManifest parent name platforms).outputPath)
      (place ++ [name]) (platforms.flatMap (Platform.filePaths name)) := by
  have elsewhere : ∀ target ∈ (Starter.filePaths name).map fun text => place ++ names text,
      ¬ place ++ [name] ++ ["Build"] <+: target := by
    intro target isTarget isPrefix
    obtain ⟨text, member, rfl⟩ := List.mem_map.mp isTarget
    rw [List.append_assoc, List.prefix_append_right_inj] at isPrefix
    rcases Starter.names_of_mem_filePaths isName member with areListed | areListed <;>
      rw [areListed] at isPrefix <;> simp at isPrefix
  have stillFree : started.tree.item? (place ++ [name] ++ ["Build"]) = none := by
    rw [changes.entries _ elsewhere]
    exact Tree.item?_append_eq_none isFree ["Build"]
  apply Machine.hasRoom_of_free (leadsInto_outputPath isName leadsInto wrote) stillFree
  intro text member
  obtain ⟨platform, isPath⟩ := Platform.exists_isFilePath isName member
  exact isPath.exists_names_eq_cons isName

theorem item?_eq_none_of_lookup {tree : Tree} {entries : List (String × Tree)}
    (there : tree.get? place = some (.folder entries)) (isFree : entries.lookup name = none) :
    tree.item? (place ++ [name]) = none := by
  rw [Tree.item?, Tree.get?_append, there, Option.bind_some, Tree.get?_folder, isFree]
  rfl

/-- What a build has written is below the folder that its paths go on from. -/
theorem find_generatedFile {output : String} {root : List String} {interface : Interface}
    {platforms : List Platform} (isName : IsProjectName interface.appName)
    (leadsInto : after.LeadsInto (beginning output) root)
    (wrote : started.WroteAll ((generatedFiles interface platforms).map (placed output)) after)
    {file : GeneratedFile} (member : file ∈ generatedFiles interface platforms) :
    after.find (Path.join output file.path) =
      .ok (root ++ names file.path, .file file.content) := by
  obtain ⟨platform, -, isFile⟩ := List.mem_flatMap.mp member
  have isPath := Platform.isFilePath_of_mem isName platform _ (Platform.path_mem_filePaths isFile)
  obtain ⟨outer, last, isPlainOuter, isEntryName, isInside⟩ := isPath.isInside isName
  have isPlain : IsPlain file.path := isInside ▸ .inside isPlainOuter isEntryName
  obtain ⟨found, leads, isText⟩ :=
    wrote.exists_leads (agree_of_wroteAll wrote) (List.mem_map_of_mem (f := placed output) member)
  have isFound := leads.find_eq_file isText
  rw [placed, Path.join_of_relative isPlain.isAbsolute_eq_false] at leads
  rw [← leadsInto.eq_of_leads isPlain leads]
  exact isFound

/-- A new project builds. Under a name that is free in a folder, a project can be started, its
manifest says what was asked for, and the build of its platforms succeeds. The files that the build
writes are below the folder of the project. -/
theorem fresh_project_builds {machine : Machine} {entries : List (String × Tree)}
    (isName : IsProjectName name)
    (found : machine.find parent = .ok (place, .folder entries))
    (isFree : entries.lookup name = none) (listed : List Platform)
    (fits : ∀ path ∈ freshPaths parent name (platformsOr listed),
      path.utf8ByteSize ≤ Disk.longestPath) :
    let loaded := freshManifest parent name (platformsOr listed)
    ∃ started built paths project,
      machine.perform (startProject host parent name listed) =
        (.ok (Path.join parent name), started) ∧
      started.perform (loadManifest host
        (some (Path.join (Path.join parent name) manifestFile))) = (.ok loaded, started) ∧
      started.perform (buildProjects host loaded loaded.manifest.platforms) =
        (.ok paths, built) ∧
      LeavesProjects started built loaded.outputPath (freshInterface name)
        loaded.manifest.platforms paths project ∧
      (∀ platform ∈ loaded.manifest.platforms,
        (project platform).files.length = platform.fileCount) ∧
      ∀ path ∈ paths, ∃ inner content,
        built.find path = .ok (place ++ name :: inner, .file content) := by
  intro loaded
  obtain ⟨leads, there⟩ := Machine.find_eq_ok found
  have isFolder : machine.tree.item? place = some .folder := by
    rw [Tree.item?, there]
    rfl
  have leadsInto := LeadsInto.of_leads leads isFolder
  have isFreePlace := item?_eq_none_of_lookup there isFree
  obtain ⟨noNul, -, -⟩ := Disk.checkPath_eq_ok.mp leads.accepted
  obtain ⟨started, isStarted, leadsIntoStarted, changes⟩ := exists_startProject isName leadsInto
    isFreePlace (isLayout_project isName noNul fits) listed
  have wrote := (perform_startProject_eq_ok isStarted).2
  have hasRoom := hasRoom_for_build isName isFreePlace leadsIntoStarted wrote changes
  have members (platform : Platform) (isListed : platform ∈ loaded.manifest.platforms)
      (file : GeneratedFile) (isFile : file ∈ (freshInterface name).files platform) :
      file.path ∈ (platformsOr listed).flatMap (Platform.filePaths name) :=
    List.mem_flatMap.mpr ⟨platform, isListed, Platform.path_mem_filePaths isFile⟩
  obtain ⟨paths, built, isBuilt, hasRoomLater⟩ :=
    exists_buildEach hasRoom (isLayout_build isName noNul fits) members
  obtain ⟨rfl, wroteProjects⟩ := perform_buildEach_eq_ok isBuilt
  rw [← perform_buildProjects (describes_freshInterface isName wrote)] at isBuilt
  refine ⟨started, built, _, _, isStarted, perform_loadManifest_of_started isName wrote, isBuilt,
    leavesProjects_of_wroteAll wroteProjects, ?_, ?_⟩
  · intro platform isListed
    have sameLength := congrArg List.length (Platform.map_path_files (freshInterface name) platform)
    rw [List.length_map, Platform.length_filePaths] at sameLength
    exact sameLength
  · intro path isPath
    obtain ⟨file, isFile, rfl⟩ := List.mem_map.mp isPath
    have isFound := find_generatedFile isName hasRoomLater.leadsInto wroteProjects isFile
    rw [List.append_assoc] at isFound
    exact ⟨names file.path, file.content, isFound⟩

def oddName : String := "\x7b\x7b\"\\a\u0301 .\n\x7d"

/-- The name has braces, a quote, a backslash and a line feed, and one platform is listed twice. -/
theorem fresh_project_builds_under_odd_name :
    let loaded := freshManifest "existing/." oddName [.linux, .macos, .linux]
    IsProjectName oddName ∧
      machineWithProject.find "existing/." =
        .ok (["existing"], .folder [("crossui.toml", .file "[project]")]) ∧
      (∀ path ∈ freshPaths "existing/." oddName [.linux, .macos, .linux],
        path.utf8ByteSize ≤ Disk.longestPath) ∧
      ∃ started built paths project,
        machineWithProject.perform
            (startProject host "existing/." oddName [.linux, .macos, .linux]) =
          (.ok (Path.join "existing/." oddName), started) ∧
        started.perform (loadManifest host
          (some (Path.join (Path.join "existing/." oddName) manifestFile))) =
            (.ok loaded, started) ∧
        started.perform (buildProjects host loaded loaded.manifest.platforms) =
          (.ok paths, built) ∧
        LeavesProjects started built loaded.outputPath (freshInterface oddName)
          loaded.manifest.platforms paths project ∧
        (∀ platform ∈ loaded.manifest.platforms,
          (project platform).files.length = platform.fileCount) ∧
        ∀ path ∈ paths, ∃ inner content,
          built.find path = .ok (["existing"] ++ oddName :: inner, .file content) := by
  have isName : IsProjectName oddName :=
    ⟨⟨by decide, by decide, by decide⟩, by decide, by decide, by decide⟩
  have found : machineWithProject.find "existing/." =
      .ok (["existing"], .folder [("crossui.toml", .file "[project]")]) :=
    rfl
  have isFree : [("crossui.toml", Tree.file "[project]")].lookup oddName = none := rfl
  have fits : ∀ path ∈ freshPaths "existing/." oddName [.linux, .macos, .linux],
      path.utf8ByteSize ≤ Disk.longestPath := by
    decide +kernel
  exact ⟨isName, found, fits,
    fresh_project_builds isName found isFree [.linux, .macos, .linux] fits⟩

end Polyview.Action
