import Polyview.Proofs.Action.Writing
import Polyview.Proofs.Project.Generation

/-!
# Building projects

A build reads the entry document of a manifest, and then generates and writes the project of each
platform in turn. It writes nothing if the document cannot be read or has no views. If it succeeds,
each generated file is in a place of its own with the content that was generated for it, and all
other files are as they were.
-/

namespace Polyview.Action

open Disk (Machine Fault)
open Disk.Machine (host WroteAll lastWritten_of_mem lastWritten_eq_of_mem_iff)

variable {before after : Machine} {loaded : LoadedManifest}

/-! ## The interface of a manifest -/

/-- The interface that a manifest describes with the entry document that a machine holds. -/
inductive DescribesInterface (machine : Machine) (loaded : LoadedManifest) : Interface → Prop
  | ofEntry {text : String} {document : Document} {root : View} {store : Store}
      (isText : machine.readText loaded.entryPath = .ok text)
      (isDocument : Document.ofJson text = .ok document)
      (isView : document.toView .empty = .ok (root, store)) :
      DescribesInterface machine loaded
        ⟨loaded.manifest.appName, root, store, loaded.manifest.escapes⟩

def entryContext (loaded : LoadedManifest) : String :=
  "Failed to load entry view " ++ loaded.entryPath

/-- Why a manifest describes no interface on a machine. -/
inductive LacksInterface (machine : Machine) (loaded : LoadedManifest) : Error → Prop
  | unreadable {fault : Fault} (isFault : machine.readText loaded.entryPath = .error fault) :
      LacksInterface machine loaded ((diskError fault).within (entryContext loaded))
  | noDocument {text : String} {fault : Json.Fault}
      (isText : machine.readText loaded.entryPath = .ok text)
      (isFault : Document.ofJson text = .error fault) :
      LacksInterface machine loaded
        ((Cause.failure (.json fault)).error.within (entryContext loaded))
  | noViews {text : String} {document : Document} {error : DocumentError}
      (isText : machine.readText loaded.entryPath = .ok text)
      (isDocument : Document.ofJson text = .ok document)
      (isError : document.toView .empty = .error error) :
      LacksInterface machine loaded (Cause.failure (.document error)).error

theorem describes_or_lacksInterface (machine : Machine) (loaded : LoadedManifest) :
    (∃ interface, DescribesInterface machine loaded interface) ∨
      ∃ error, LacksInterface machine loaded error := by
  cases isText : machine.readText loaded.entryPath with
  | error fault => exact .inr ⟨_, .unreadable isText⟩
  | ok text =>
      cases isDocument : Document.ofJson text with
      | error fault => exact .inr ⟨_, .noDocument isText isDocument⟩
      | ok document =>
          cases isView : document.toView .empty with
          | error error => exact .inr ⟨_, .noViews isText isDocument isView⟩
          | ok view => exact .inl ⟨_, .ofEntry isText isDocument isView⟩

/-! ## Building -/

theorem perform_loadDocument_of_readText {path text : String}
    (isText : before.readText path = .ok text) :
    before.perform (loadDocument host path) =
      before.perform (orFailure ((Document.ofJson text).mapError Failure.json)) := by
  rw [loadDocument, perform_bind, perform_readText, isText, mapError_ok]

theorem perform_buildProjects {interface : Interface}
    (describes : DescribesInterface before loaded interface) (platforms : List Platform) :
    before.perform (buildProjects host loaded platforms) =
      before.perform (buildEach host interface loaded.outputPath platforms) := by
  cases describes with
  | ofEntry isText isDocument isView =>
      rw [buildProjects, perform_bind, perform_within, perform_loadDocument_of_readText isText,
        isDocument]
      simp only [mapError_ok, orFailure_ok, perform_pure, viewsOf, isView, pure_bind]

theorem perform_buildProjects_of_lacks {error : Error}
    (lacks : LacksInterface before loaded error) (platforms : List Platform) :
    before.perform (buildProjects host loaded platforms) = (.error error, before) := by
  rw [buildProjects, perform_bind, perform_within]
  cases lacks with
  | unreadable isFault =>
      rw [loadDocument, perform_bind, perform_readText, isFault]
      rfl
  | noDocument isText isFault =>
      rw [perform_loadDocument_of_readText isText, isFault]
      rfl
  | noViews isText isDocument isError =>
      rw [perform_loadDocument_of_readText isText, isDocument]
      simp only [mapError_ok, orFailure_ok, perform_pure, viewsOf, isError]
      rfl

theorem buildEach_cons (interface : Interface) (output : String) (platform : Platform)
    (rest : List Platform) :
    buildEach (m := StateM Machine) host interface output (platform :: rest) = do
      let paths ← within ("Failed to write " ++ platform.name ++ " project")
        (writeFiles host output (interface.files platform))
      host.print ("Generated " ++ platform.framework ++ " project (" ++ Nat.repr paths.length ++
        ") in " ++ Path.join (Path.join output "Build") platform.folder ++ "\n")
      return paths ++ (← buildEach host interface output rest) := by
  rw [buildEach, Interface.project_eq_ok, orFailure_ok, pure_bind]

/-- The files of an interface for platforms, one platform after the other. -/
def generatedFiles (interface : Interface) (platforms : List Platform) : List GeneratedFile :=
  platforms.flatMap interface.files

theorem exists_index_of_mem {interface : Interface} {platforms : List Platform}
    {file : GeneratedFile} (member : file ∈ generatedFiles interface platforms) :
    ∃ platform ∈ platforms, ∃ index : Nat, (interface.files platform)[index]? = some file := by
  obtain ⟨platform, isListed, isFile⟩ := List.mem_flatMap.mp member
  exact ⟨platform, isListed, List.mem_iff_getElem?.mp isFile⟩

theorem perform_buildEach_eq_ok {interface : Interface} {output : String}
    {platforms : List Platform} {paths : List String}
    (built : before.perform (buildEach host interface output platforms) = (.ok paths, after)) :
    paths = (generatedFiles interface platforms).map (fun file => Path.join output file.path) ∧
      before.WroteAll ((generatedFiles interface platforms).map (placed output)) after := by
  induction platforms generalizing before paths with
  | nil =>
      obtain ⟨result, rfl⟩ := Prod.mk.inj built
      exact ⟨(Except.ok.inj result).symm, .of_addsFolders (.refl before)⟩
  | cons platform rest ih =>
      rw [buildEach_cons] at built
      obtain ⟨first, middle, written, built⟩ := perform_bind_eq_ok.mp built
      obtain ⟨_, printed, isPrinted, built⟩ := perform_bind_eq_ok.mp built
      obtain ⟨later, last, restBuilt, built⟩ := perform_bind_eq_ok.mp built
      obtain ⟨result, rfl⟩ := Prod.mk.inj built
      obtain rfl := Except.ok.inj result
      obtain ⟨arePaths, wrote⟩ := perform_writeFiles_eq_ok (perform_within_eq_ok written)
      obtain ⟨arePathsLater, wroteLater⟩ := ih restBuilt
      have wroteWhole := (wrote.trans (.of_addsFolders (perform_print_addsFolders isPrinted))).trans
        wroteLater
      rw [List.append_nil, ← List.map_append] at wroteWhole
      refine ⟨?_, wroteWhole⟩
      rw [arePaths, arePathsLater, ← List.map_append]
      rfl

theorem perform_buildEach_eq_error {interface : Interface} {output : String}
    {platforms : List Platform} {error : Error}
    (failed : before.perform (buildEach host interface output platforms) = (.error error, after)) :
    ∃ platform ∈ platforms, ∃ (middle : Machine) (fault : Fault),
      middle.perform (writeFiles host output (interface.files platform)) =
        (.error (diskError fault), after) ∧
      error = (diskError fault).within ("Failed to write " ++ platform.name ++ " project") := by
  induction platforms generalizing before with
  | nil => cases failed
  | cons platform rest ih =>
      rw [buildEach_cons] at failed
      rcases perform_bind_eq_error.mp failed with notWritten | ⟨_, _, _, failed⟩
      · obtain ⟨inner, notWritten, isError⟩ := perform_within_eq_error notWritten
        obtain ⟨⟨fault, rfl⟩, -⟩ := perform_writeFiles_eq_error notWritten
        exact ⟨platform, List.mem_cons_self, before, fault, notWritten, isError⟩
      · rcases perform_bind_eq_error.mp failed with notPrinted | ⟨_, _, _, failed⟩
        · cases notPrinted
        · rcases perform_bind_eq_error.mp failed with later | ⟨_, _, _, impossible⟩
          · obtain ⟨other, member, isLast⟩ := ih later
            exact ⟨other, List.mem_cons_of_mem platform member, isLast⟩
          · cases impossible

/-! ## What a build leaves behind -/

/-- Generated files that go to one place are one file of one project. -/
theorem eq_of_placeAt_eq {interface : Interface} {first second : Platform}
    {firstIndex secondIndex : Nat} {file other : GeneratedFile}
    (isFile : (interface.files first)[firstIndex]? = some file)
    (isOther : (interface.files second)[secondIndex]? = some other) {output : String}
    {here : List String}
    (isOrdinary : Disk.IsOrdinary (Path.lastName (Path.join output file.path)))
    (isOtherOrdinary : Disk.IsOrdinary (Path.lastName (Path.join output other.path)))
    (samePlace : Disk.placeAt here (Path.join output file.path) =
      Disk.placeAt here (Path.join output other.path)) :
    first = second ∧ firstIndex = secondIndex :=
  Interface.eq_of_lastName_eq isFile isOther
    (Disk.lastName_eq_of_placeAt_eq isOrdinary isOtherOrdinary samePlace)

theorem placed_mem {interface : Interface} {platforms : List Platform} {platform : Platform}
    (isListed : platform ∈ platforms) {file : GeneratedFile}
    (isFile : file ∈ interface.files platform) (output : String) :
    placed output file ∈ (generatedFiles interface platforms).map (placed output) :=
  List.mem_map_of_mem (List.mem_flatMap.mpr ⟨platform, isListed, isFile⟩)

theorem agree_of_wroteAll {interface : Interface} {platforms : List Platform} {output : String}
    (wrote : before.WroteAll ((generatedFiles interface platforms).map (placed output)) after) :
    Machine.Agree before.here ((generatedFiles interface platforms).map (placed output)) := by
  intro write member otherWrite otherMember samePlace
  have isOrdinary := wrote.isOrdinary write member
  have isOtherOrdinary := wrote.isOrdinary otherWrite otherMember
  obtain ⟨file, isGenerated, rfl⟩ := List.mem_map.mp member
  obtain ⟨other, isOtherGenerated, rfl⟩ := List.mem_map.mp otherMember
  obtain ⟨first, -, firstIndex, isFile⟩ := exists_index_of_mem isGenerated
  obtain ⟨second, -, secondIndex, isOther⟩ := exists_index_of_mem isOtherGenerated
  obtain ⟨rfl, rfl⟩ := eq_of_placeAt_eq isFile isOther isOrdinary isOtherOrdinary samePlace
  obtain rfl := Option.some.inj (isFile.symm.trans isOther)
  rfl

/-- What a build that has succeeded leaves on a machine: the projects of an interface, in files of
their own, and otherwise the files that were there before. -/
structure LeavesProjects (before after : Machine) (output : String) (interface : Interface)
    (platforms : List Platform) (paths : List String) (project : Platform → Project) : Prop where
  generated : ∀ platform ∈ platforms, interface.project platform = .ok (project platform)
  isPaths : paths = platforms.flatMap fun platform =>
    (project platform).files.map fun file => Path.join output file.path
  contents : ∀ platform ∈ platforms, ∀ file ∈ (project platform).files,
    after.readText (Path.join output file.path) = .ok file.content
  interfaceFile : ∀ platform ∈ platforms, ∃ file ∈ (project platform).files,
    file.path = platform.projectFolder ++ "/" ++ platform.interfaceFile ∧
      file.content = interface.root.renderPage (platform.style interface.escapes) interface.store
        interface.appName
  /-- A place that two generated files lead to is the place of one file of one project. -/
  apart : ∀ first ∈ platforms, ∀ second ∈ platforms,
    ∀ (firstIndex secondIndex : Nat) (file other : GeneratedFile) place found otherFound,
      (project first).files[firstIndex]? = some file →
      (project second).files[secondIndex]? = some other →
      after.find (Path.join output file.path) = .ok (place, found) →
      after.find (Path.join output other.path) = .ok (place, otherFound) →
      first = second ∧ firstIndex = secondIndex
  others : ∀ place, (∀ path ∈ paths, ∀ found, after.find path ≠ .ok (place, found)) →
    after.text? place = before.text? place

theorem leavesProjects_of_wroteAll {interface : Interface} {output : String}
    {platforms : List Platform}
    (wrote : before.WroteAll ((generatedFiles interface platforms).map (placed output)) after) :
    LeavesProjects before after output interface platforms
      ((generatedFiles interface platforms).map fun file => Path.join output file.path)
      fun platform => ⟨interface.files platform⟩ where
  generated platform _ := interface.project_eq_ok platform
  isPaths := by rw [generatedFiles, List.map_flatMap]
  contents platform isListed file isFile := by
    -- The write is found first, since the goal alone does not say which one it is.
    have isRead := wrote.readText_eq (agree_of_wroteAll wrote) (placed_mem isListed isFile output)
    exact isRead
  interfaceFile platform _ := ⟨interface.file platform, List.mem_cons_self, rfl, rfl⟩
  apart first isFirst second isSecond firstIndex secondIndex file other place found otherFound
      isFile isOther leads leadsOther := by
    have isPlace := (Machine.find_eq_ok leads).1.eq_placeAt
    have isOtherPlace := (Machine.find_eq_ok leadsOther).1.eq_placeAt
    have isOrdinary := wrote.isOrdinary _
      (placed_mem isFirst (List.mem_of_getElem? isFile) output)
    have isOtherOrdinary := wrote.isOrdinary _
      (placed_mem isSecond (List.mem_of_getElem? isOther) output)
    exact eq_of_placeAt_eq isFile isOther isOrdinary isOtherOrdinary
      (isPlace.symm.trans isOtherPlace)
  others place notFound := by
    apply wrote.text?_eq_of_elsewhere
    intro write member samePlace
    obtain ⟨file, isFile, rfl⟩ := List.mem_map.mp member
    have isText : after.text? place = some file.content := by
      rw [wrote.texts, ← samePlace, lastWritten_of_mem (agree_of_wroteAll wrote) member]
      rfl
    have leads := (samePlace ▸ wrote.leads _ member).find_eq_file isText
    exact notFound _ (List.mem_map_of_mem isFile) _ leads

/-! ## A name that leads out of its folder -/

def entryText : String := "\x7b\"root\": [\"text_field\", \"Title\", null, \"Text\"]\x7d"

/-- A machine with an entry document, and with a folder for generated projects. -/
def machineWith (generated : List (String × Disk.Tree)) : Machine where
  tree := .folder
    [("Build", .folder generated),
      ("views", .folder [("ContentView.json", .file entryText)])]
  here := []
  output := ""
  tools := []

/-- A manifest whose application has a name that leads out of the folder of its project. -/
def climbingManifest : LoadedManifest := ⟨Manifest.defaultFor "a/../../b", "."⟩

def climbingInterface : Interface :=
  ⟨"a/../../b", .field "Title" (.cell ⟨0⟩), ⟨["Text"], []⟩, false⟩

theorem ofJson_entryText :
    Document.ofJson entryText = .ok ⟨.empty, .field "Title" none "Text"⟩ := by
  simp only [Document.ofJson, entryText, String.reduceToList]
  rfl

theorem describes_climbingInterface (generated : List (String × Disk.Tree)) :
    DescribesInterface (machineWith generated) climbingManifest climbingInterface := by
  have isText : (machineWith generated).readText climbingManifest.entryPath = .ok entryText :=
    rfl
  have isView : (⟨.empty, .field "Title" none "Text"⟩ : Document).toView .empty =
      .ok (climbingInterface.root, climbingInterface.store) :=
    rfl
  exact DescribesInterface.ofEntry isText ofJson_entryText isView

/-! ## Whole builds -/

/-- A build that succeeds leaves the projects of the platforms on the machine: every generated file
is where its path leads, with the content that was generated, no two files are in one place, and
all other files are as they were. So the order of the platforms does not matter, nor how often they
are listed. -/
theorem successful_build_leaves_projects {platforms : List Platform} {paths : List String}
    (built : before.perform (buildProjects host loaded platforms) = (.ok paths, after)) :
    ∃ interface project, DescribesInterface before loaded interface ∧
      LeavesProjects before after loaded.outputPath interface platforms paths project ∧
      ∀ otherPlatforms otherPaths otherAfter,
        (∀ platform, platform ∈ otherPlatforms ↔ platform ∈ platforms) →
        before.perform (buildProjects host loaded otherPlatforms) = (.ok otherPaths, otherAfter) →
        ∀ place, otherAfter.text? place = after.text? place := by
  rcases describes_or_lacksInterface before loaded with ⟨interface, describes⟩ | ⟨error, lacks⟩
  · rw [perform_buildProjects describes] at built
    obtain ⟨rfl, wrote⟩ := perform_buildEach_eq_ok built
    refine ⟨interface, _, describes, leavesProjects_of_wroteAll wrote, ?_⟩
    intro otherPlatforms otherPaths otherAfter sameMembers builtOther place
    rw [perform_buildProjects describes] at builtOther
    obtain ⟨-, wroteOther⟩ := perform_buildEach_eq_ok builtOther
    have sameFiles (file : GeneratedFile) : file ∈ generatedFiles interface otherPlatforms ↔
        file ∈ generatedFiles interface platforms := by
      simp only [generatedFiles, List.mem_flatMap, sameMembers]
    have sameWrites (write : String × String) :
        write ∈ (generatedFiles interface otherPlatforms).map (placed loaded.outputPath) ↔
          write ∈ (generatedFiles interface platforms).map (placed loaded.outputPath) := by
      simp only [List.mem_map, sameFiles]
    rw [wroteOther.texts, wrote.texts,
      lastWritten_eq_of_mem_iff (agree_of_wroteAll wrote) sameWrites]
  · rw [perform_buildProjects_of_lacks lacks] at built
    cases (Prod.mk.inj built).1

/-- The name leads out of the folder of its project, and one platform is listed twice. -/
theorem successful_build_leaves_projects_of_climbing_name :
    ∃ paths after,
      (machineWith []).perform (buildProjects host climbingManifest [.linux, .windows, .linux]) =
        (.ok paths, after) ∧
      ∃ interface project, DescribesInterface (machineWith []) climbingManifest interface ∧
        LeavesProjects (machineWith []) after climbingManifest.outputPath interface
          [.linux, .windows, .linux] paths project ∧
        ∀ otherPlatforms otherPaths otherAfter,
          (∀ platform, platform ∈ otherPlatforms ↔ platform ∈ [.linux, .windows, .linux]) →
          (machineWith []).perform (buildProjects host climbingManifest otherPlatforms) =
            (.ok otherPaths, otherAfter) →
          ∀ place, otherAfter.text? place = after.text? place := by
  have succeeds : ((machineWith []).perform
      (buildEach host climbingInterface climbingManifest.outputPath
        [.linux, .windows, .linux])).1.toOption.isSome := by
    simp only [buildEach_cons]
    decide +kernel
  rw [← perform_buildProjects (describes_climbingInterface [])] at succeeds
  cases built : (machineWith []).perform
      (buildProjects host climbingManifest [.linux, .windows, .linux]) with
  | mk result after =>
      cases result with
      | error error =>
          rw [built] at succeeds
          cases succeeds
      | ok paths => exact ⟨paths, after, rfl, successful_build_leaves_projects built⟩

/-- A build that cannot read the entry document, or cannot make views of it, says why and changes
nothing. Any other build that fails does so while it writes the files of one of its platforms, and
only such a build can leave changes behind. -/
theorem failed_build_changes_nothing_unless_writing (machine : Machine) (loaded : LoadedManifest)
    (platforms : List Platform) :
    (∀ error, LacksInterface machine loaded error →
      machine.perform (buildProjects host loaded platforms) = (.error error, machine)) ∧
    ∀ error after, machine.perform (buildProjects host loaded platforms) = (.error error, after) →
      LacksInterface machine loaded error ∧ after = machine ∨
      ∃ interface, DescribesInterface machine loaded interface ∧
        ∃ platform ∈ platforms, ∃ (middle : Machine) (fault : Fault),
          middle.perform (writeFiles host loaded.outputPath (interface.files platform)) =
            (.error (diskError fault), after) ∧
          error = (diskError fault).within ("Failed to write " ++ platform.name ++ " project") := by
  refine ⟨fun error lacks => perform_buildProjects_of_lacks lacks platforms, ?_⟩
  intro error after failed
  rcases describes_or_lacksInterface machine loaded with ⟨interface, describes⟩ | ⟨reason, lacks⟩
  · rw [perform_buildProjects describes] at failed
    exact .inr ⟨interface, describes, perform_buildEach_eq_error failed⟩
  · rw [perform_buildProjects_of_lacks lacks] at failed
    obtain ⟨sameError, rfl⟩ := Prod.mk.inj failed
    obtain rfl := Except.error.inj sameError
    exact .inl ⟨lacks, rfl⟩

/-- A file stands where the folder of the second platform is to be made. The files of the first
platform stay. Where there is no entry document, nothing is written. -/
theorem failed_build_changes_nothing_unless_writing_of_blocked_folder :
    (∃ error after,
      (machineWith [("linux", .file "")]).perform
          (buildProjects host climbingManifest [.windows, .linux]) = (.error error, after) ∧
        after.text? ["Build", "b.sln"] ≠ none ∧
        (LacksInterface (machineWith [("linux", .file "")]) climbingManifest error ∧
            after = machineWith [("linux", .file "")] ∨
          ∃ interface,
            DescribesInterface (machineWith [("linux", .file "")]) climbingManifest interface ∧
            ∃ platform ∈ [Platform.windows, .linux], ∃ (middle : Machine) (fault : Fault),
              middle.perform
                  (writeFiles host climbingManifest.outputPath (interface.files platform)) =
                (.error (diskError fault), after) ∧
              error =
                (diskError fault).within ("Failed to write " ++ platform.name ++ " project"))) ∧
    (⟨.empty, [], "", []⟩ : Machine).readText climbingManifest.entryPath = .error .missing ∧
    (⟨.empty, [], "", []⟩ : Machine).perform
        (buildProjects host climbingManifest [.windows, .linux]) =
      (.error ((diskError .missing).within (entryContext climbingManifest)),
        ⟨.empty, [], "", []⟩) := by
  refine ⟨?_, rfl, ?_⟩
  · have fails : ((machineWith [("linux", .file "")]).perform
        (buildEach host climbingInterface climbingManifest.outputPath
          [.windows, .linux])).1.toOption.isNone ∧
        (((machineWith [("linux", .file "")]).perform
          (buildEach host climbingInterface climbingManifest.outputPath
            [.windows, .linux])).2.text? ["Build", "b.sln"]).isSome := by
      simp only [buildEach_cons]
      decide +kernel
    rw [← perform_buildProjects (describes_climbingInterface _)] at fails
    cases failed : (machineWith [("linux", .file "")]).perform
        (buildProjects host climbingManifest [.windows, .linux]) with
    | mk result after =>
        rw [failed] at fails
        cases result with
        | ok paths => cases fails.1
        | error error =>
            exact ⟨error, after, rfl, Option.isSome_iff_ne_none.mp fails.2,
              (failed_build_changes_nothing_unless_writing _ _ _).2 error after failed⟩
  · exact (failed_build_changes_nothing_unless_writing _ _ _).1 _ (.unreadable rfl)

end Polyview.Action
