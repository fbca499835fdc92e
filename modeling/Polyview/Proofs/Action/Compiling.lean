import Polyview.Build.Launch
import Polyview.Proofs.Action.Building
import Polyview.Proofs.Disk.Inside

/-!
# Compiling what has been built

The command that compiles a project spells paths from the folder that its tool runs in, whereas a
build spells the paths of the same files from the folder of the whole project. Both lead to the same
files, whatever the name of the application is, and however many other projects have been built.
-/

namespace Polyview

namespace Disk.Machine

variable {machine : Machine}

/-- What becomes of a program that is started in a folder at a place. -/
def startedIn (machine : Machine) (work : List String) (program : String)
    (arguments : List String) : Except Fault Ending × Machine :=
  match (machine.inside work).toolAmong .missing (programPaths program) with
  | .error fault => (.error fault, machine)
  | .ok tool =>
      let (ending, after) := (machine.inside work).runTool program arguments tool
      (.ok ending, { after with here := machine.here })

theorem launch_eq_startedIn {program folder : String} {arguments work : List String}
    (leads : machine.Leads folder work) (isFolder : machine.tree.item? work = some .folder)
    (noNul : ∀ text ∈ program :: arguments, '\x00' ∉ text.toList) :
    machine.launch program arguments folder = machine.startedIn work program arguments := by
  obtain ⟨noNulInFolder, -, -⟩ := checkPath_eq_ok.mp leads.accepted
  have accepted : (program :: folder :: arguments).any (fun text => text.toList.contains '\x00') =
      false := by
    simp only [List.any_eq_false, List.mem_cons, List.contains_eq_mem, decide_eq_true_eq]
    rintro text (rfl | rfl | isArgument)
    · exact noNul text List.mem_cons_self
    · exact noNulInFolder
    · exact noNul text (List.mem_cons_of_mem program isArgument)
  obtain ⟨entries, isFound⟩ := leads.find_eq_folder isFolder
  rw [launch, accepted, if_neg Bool.false_ne_true, isFound]
  rfl

end Disk.Machine

namespace Action

open Disk (Machine Fault)
open Disk.Machine (host WroteAll)

variable {before after : Machine} {loaded : LoadedManifest}

/-! ## Running the command -/

/-- What running a command comes to once its tool has ended, or could not be started. -/
def toolResult (command : BuildCommand) : Except Fault Ending → Except Failure Unit
  | .error fault => .error (.launch command.toolName fault)
  | .ok (.exit 0) => .ok ()
  | .ok (.exit code) => .error (.tool command.toolName (some code))
  | .ok .signal => .error (.tool command.toolName none)

theorem run_command (machine : Machine) (command : BuildCommand) (root : String) :
    let started := machine.launch command.program command.arguments
      (Path.join root command.folder)
    (command.run host root).run machine = (toolResult command started.1, started.2) := by
  intro started
  have isRun : (command.run host root).run machine =
      ((match started.1 with
        | .error fault => throw (.launch command.toolName fault)
        | .ok (.exit 0) => return
        | .ok (.exit code) => throw (.tool command.toolName (some code))
        | .ok .signal => throw (.tool command.toolName none) :
          ExceptT Failure (StateM Machine) Unit)).run started.2 :=
    rfl
  rw [isRun]
  rcases started.1 with fault | ⟨_ | code⟩ | _ <;> rfl

/-- How a compilation ends once its tool has ended, or could not be started. -/
def compiled (loaded : LoadedManifest) (platform : Platform)
    (started : Except Fault Ending × Machine) : Except Error Unit × Machine :=
  match toolResult (.ofPlatform loaded.manifest.appName platform) started.1 with
  | .ok () => (.ok (), started.2.print
      ("Built " ++ loaded.manifest.appName ++ " for " ++ platform.name ++ "\n"))
  | .error failure =>
      (.error ((Cause.failure failure).error.within
        ("Native build for " ++ platform.name ++ " failed")), started.2)

theorem perform_compileProject (machine : Machine) (loaded : LoadedManifest)
    (platform : Platform) :
    let command := BuildCommand.ofPlatform loaded.manifest.appName platform
    machine.perform (compileProject host loaded platform) =
      compiled loaded platform (machine.launch command.program command.arguments
        (Path.join loaded.outputPath command.folder)) := by
  intro command
  rw [compileProject, perform_bind, perform_within, perform_orFail, run_command, compiled]
  cases toolResult command (machine.launch command.program command.arguments
    (Path.join loaded.outputPath command.folder)).1 <;> rfl

/-! ## What the command refers to -/

/-- The arguments of a platform's tool refer to the project of an application, from the current
folder of a machine: to the folder of an Xcode project, to a solution, or to a makefile, which is
found without any arguments. -/
inductive FindsProject (machine : Machine) (appName : String) : Platform → List String → Prop
  | xcodeProject {project : String} (isFolder : machine.hasFolder project = true)
      (isText : machine.readText (project ++ "/" ++ "project.pbxproj") =
        .ok (Boilerplate.xcodeProject.filled appName)) :
      FindsProject machine appName .macos ["-project", project, "-scheme", appName, "build"]
  | solution {solution : String}
      (isText : machine.readText solution = .ok (Boilerplate.solution.filled appName)) :
      FindsProject machine appName .windows
        [solution, "/t:Rebuild", "/p:Configuration=Release"]
  | makefile
      (isText : machine.readText "Makefile" = .ok (Boilerplate.makefile.filled appName)) :
      FindsProject machine appName .linux []

theorem noNul_of_readText {machine : Machine} {path content : String}
    (isText : machine.readText path = .ok content) : '\x00' ∉ path.toList := by
  rw [Machine.readText, bind_eq_ok] at isText
  obtain ⟨⟨place, found⟩, isFound, -⟩ := isText
  have leads := (Machine.find_eq_ok isFound).1
  exact (Disk.checkPath_eq_ok.mp leads.accepted).1

theorem noNul_program (appName : String) (platform : Platform) :
    '\x00' ∉ (BuildCommand.ofPlatform appName platform).program.toList := by
  have sameProgram : (BuildCommand.ofPlatform appName platform).program =
      (BuildCommand.ofPlatform "" platform).program := by
    cases platform <;> rfl
  rw [sameProgram]
  cases platform <;> decide +kernel

/-- A name that leads to files has no character that an argument cannot have. -/
theorem FindsProject.noNul {machine : Machine} {appName : String} {platform : Platform}
    {arguments : List String} (finds : FindsProject machine appName platform arguments)
    (areArguments : arguments = (BuildCommand.ofPlatform appName platform).arguments) :
    ∀ text ∈ arguments, '\x00' ∉ text.toList := by
  cases finds with
  | makefile => exact nofun
  | solution isText =>
      simp only [List.forall_mem_cons]
      exact ⟨noNul_of_readText isText, by decide, by decide, nofun⟩
  | @xcodeProject project isFolder isText =>
      have noNul := noNul_of_readText isText
      simp only [String.toList_append, List.mem_append, not_or] at noNul
      have isProject : project = Platform.macos.projectFolder ++ "/" ++ appName ++ ".xcodeproj" :=
        (List.cons.inj (List.cons.inj areArguments).2).1
      have noNulInName : '\x00' ∉ appName.toList := by
        rw [isProject] at noNul
        simp only [String.toList_append, List.mem_append, not_or] at noNul
        exact noNul.1.1.1.2
      simp only [List.forall_mem_cons]
      exact ⟨by decide, noNul.1.1, by decide, noNulInName, by decide, nofun⟩

/-! ## What a build leaves for the command -/

theorem isAbsolute_projectFolder (platform : Platform) (more : String) :
    Path.isAbsolute (platform.projectFolder ++ more) = false := by
  have isNamed : platform.projectFolder ≠ "" := by cases platform <;> decide
  rw [Path.isAbsolute_append isNamed]
  cases platform <;> decide

theorem projectFolder_ne_empty (platform : Platform) (more : String) :
    platform.projectFolder ++ more ≠ "" := by
  have isNamed : platform.projectFolder ≠ "" := by cases platform <;> decide
  exact fun isEmpty => isNamed (String.append_eq_empty_iff.mp isEmpty).1

theorem exists_leads_of_wroteAll {interface : Interface} {platforms : List Platform}
    {output : String}
    (wrote : before.WroteAll ((generatedFiles interface platforms).map (placed output)) after)
    {platform : Platform} (isListed : platform ∈ platforms) {fileName : String}
    {kind : Boilerplate} (isMember : (fileName, kind) ∈ platform.boilerplate interface.appName) :
    ∃ place,
      after.Leads (Path.join output (platform.projectFolder ++ "/" ++ fileName)) place ∧
      after.text? place = some (kind.filled interface.appName) := by
  let file : GeneratedFile :=
    ⟨platform.projectFolder ++ "/" ++ fileName, kind.filled interface.appName, true⟩
  have isFile : file ∈ interface.files platform :=
    List.mem_cons_of_mem _ (List.mem_map.mpr ⟨(fileName, kind), isMember, rfl⟩)
  exact wrote.exists_leads (agree_of_wroteAll wrote) (placed_mem isListed isFile output)

/-- The folder that a platform's tool runs in is there, and the project is found from it. -/
theorem exists_work_of_wroteAll {interface : Interface} {platforms : List Platform}
    {output : String}
    (wrote : before.WroteAll ((generatedFiles interface platforms).map (placed output)) after)
    {platform : Platform} (isListed : platform ∈ platforms) :
    let command := BuildCommand.ofPlatform interface.appName platform
    ∃ work, after.Leads (Path.join output command.folder) work ∧
      after.tree.item? work = some .folder ∧
      FindsProject (after.inside work) interface.appName platform command.arguments := by
  intro command
  cases platform with
  | macos =>
      -- The tool runs in the output folder, and its argument is what a file's path has before its
      -- last slash.
      obtain ⟨place, leads, isText⟩ := exists_leads_of_wroteAll wrote isListed List.mem_cons_self
      have isLiteral : ".xcodeproj/project.pbxproj" = ".xcodeproj" ++ "/" ++ "project.pbxproj" := by
        decide
      simp only [isLiteral, String.append_assoc] at leads
      obtain ⟨work, leadsToWork, isFolder, leadsInside⟩ :=
        leads.below (projectFolder_ne_empty _ _) (isAbsolute_projectFolder _ _)
      simp only [← String.append_assoc] at leadsInside
      obtain ⟨project, leadsToProject, isProjectFolder, -⟩ :=
        leadsInside.parted (by simp) (by decide) (by decide)
      exact ⟨work, leadsToWork, isFolder,
        .xcodeProject (leadsToProject.hasFolder isProjectFolder) (leadsInside.readText_eq isText)⟩
  | windows =>
      obtain ⟨place, leads, isText⟩ := exists_leads_of_wroteAll wrote isListed List.mem_cons_self
      simp only [String.append_assoc] at leads
      obtain ⟨work, leadsToWork, isFolder, leadsInside⟩ :=
        leads.below (projectFolder_ne_empty _ _) (isAbsolute_projectFolder _ _)
      simp only [← String.append_assoc] at leadsInside
      exact ⟨work, leadsToWork, isFolder, .solution (leadsInside.readText_eq isText)⟩
  | linux =>
      -- Only this tool runs in the folder of the project itself.
      obtain ⟨place, leads, isText⟩ := exists_leads_of_wroteAll wrote isListed List.mem_cons_self
      have notEmpty : Platform.linux.projectFolder ≠ "" := by decide
      rw [String.append_assoc, Path.join_append notEmpty, ← String.append_assoc] at leads
      obtain ⟨work, leadsToWork, isFolder, leadsInside⟩ :=
        leads.parted (Path.join_ne_empty notEmpty output) (by decide) (by decide)
      exact ⟨work, leadsToWork, isFolder, .makefile (leadsInside.readText_eq isText)⟩

theorem DescribesInterface.appName_eq {machine : Machine} {interface : Interface}
    (describes : DescribesInterface machine loaded interface) :
    interface.appName = loaded.manifest.appName := by
  cases describes
  rfl

/-- After a build that has succeeded, the tool of each of its platforms is started in a folder from
which its arguments lead to the project that was generated for the platform. So nothing but the tool
itself can be missing. -/
theorem compilation_finds_built_project {platforms : List Platform} {paths : List String}
    (built : before.perform (buildProjects host loaded platforms) = (.ok paths, after))
    {platform : Platform} (isListed : platform ∈ platforms) :
    let command := BuildCommand.ofPlatform loaded.manifest.appName platform
    ∃ work entries,
      after.find (Path.join loaded.outputPath command.folder) = .ok (work, .folder entries) ∧
      FindsProject (after.inside work) loaded.manifest.appName platform command.arguments ∧
      after.perform (compileProject host loaded platform) =
        compiled loaded platform (after.startedIn work command.program command.arguments) := by
  intro command
  rcases describes_or_lacksInterface before loaded with ⟨interface, describes⟩ | ⟨error, lacks⟩
  · rw [perform_buildProjects describes] at built
    obtain ⟨-, wrote⟩ := perform_buildEach_eq_ok built
    obtain ⟨work, leads, isFolder, finds⟩ := exists_work_of_wroteAll wrote isListed
    rw [describes.appName_eq] at leads finds
    obtain ⟨entries, isFound⟩ := leads.find_eq_folder isFolder
    have noNul : ∀ text ∈ command.program :: command.arguments, '\x00' ∉ text.toList :=
      List.forall_mem_cons.mpr ⟨noNul_program loaded.manifest.appName platform, finds.noNul rfl⟩
    refine ⟨work, entries, isFound, finds, ?_⟩
    rw [perform_compileProject, Machine.launch_eq_startedIn leads isFolder noNul]
  · rw [perform_buildProjects_of_lacks lacks] at built
    cases (Prod.mk.inj built).1

/-- The name leads out of the folder of its project, and other projects are built afterwards. -/
theorem compilation_finds_built_project_of_climbing_name :
    ∃ paths after,
      (machineWith []).perform (buildProjects host climbingManifest [.linux, .macos, .windows]) =
        (.ok paths, after) ∧
      ∀ platform ∈ [Platform.linux, .macos, .windows],
        ∃ work entries,
          after.find (Path.join climbingManifest.outputPath
            (BuildCommand.ofPlatform "a/../../b" platform).folder) = .ok (work, .folder entries) ∧
          FindsProject (after.inside work) "a/../../b" platform
            (BuildCommand.ofPlatform "a/../../b" platform).arguments ∧
          after.perform (compileProject host climbingManifest platform) =
            compiled climbingManifest platform
              (after.startedIn work (BuildCommand.ofPlatform "a/../../b" platform).program
                (BuildCommand.ofPlatform "a/../../b" platform).arguments) := by
  have succeeds : ((machineWith []).perform
      (buildEach host climbingInterface climbingManifest.outputPath
        [.linux, .macos, .windows])).1.toOption.isSome := by
    simp only [buildEach_cons]
    decide +kernel
  rw [← perform_buildProjects (describes_climbingInterface [])] at succeeds
  cases built : (machineWith []).perform
      (buildProjects host climbingManifest [.linux, .macos, .windows]) with
  | mk result after =>
      cases result with
      | error error =>
          rw [built] at succeeds
          cases succeeds
      | ok paths =>
          exact ⟨paths, after, rfl, fun platform isListed =>
            compilation_finds_built_project built isListed⟩

end Action

end Polyview
