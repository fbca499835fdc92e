import Polyview.Proofs.Action.Writing
import Polyview.Proofs.Disk.Inside
import Polyview.Proofs.Project.Starter

/-!
# Starting projects

A project is not started where something is already. Otherwise its files are written below a folder
that is missing, so no file is lost, unless the name of the project leads back out of a folder that
is missing itself: once this folder has been made, the name may lead to a folder that was there all
along.
-/

namespace Polyview

namespace Starter

/-- The files of a new project. -/
def files (name : String) (platforms : List Platform) : List GeneratedFile :=
  [⟨name ++ "/" ++ manifestFile, manifestText name platforms, true⟩,
    ⟨name ++ "/" ++ defaultEntry, document.pretty ++ "\n", true⟩]

theorem project_eq_ok (name : String) (platforms : List Platform) :
    project name platforms = .ok ⟨files name platforms⟩ := by
  rw [project, manifest_eq_ok, ok_bind, pure_eq_ok]
  rfl

end Starter

namespace Action

open Disk (Machine Fault follow startOf placeAt placeFrom)
open Disk.Machine (host WroteAll)

variable {before after : Machine}

/-! ## Writing below a folder that is missing -/

/-- A path never leads back by two points from something that is missing. -/
def NeverLeadsBack (machine : Machine) (path : String) : Prop :=
  ∀ outer inner, Path.names path = outer ++ ".." :: inner →
    follow machine.tree (startOf machine.here path) (outer ++ [".."]) ≠ .error .missing

theorem startOf_append {path : String} (notEmpty : path ≠ "") (here : List String)
    (more : String) : startOf here (path ++ more) = startOf here path := by
  rw [startOf, startOf, Path.isAbsolute_append notEmpty]

/-- What can be reached later below a path that led nowhere was not there before. -/
theorem item?_eq_none_of_leads {folder inner : String} {place : List String}
    (notEmpty : folder ≠ "") (nowhere : before.has folder = false)
    (neverBack : NeverLeadsBack before folder) (neverBackInside : ".." ∉ Path.names inner)
    (here : after.here = before.here) (grows : before.tree.Grows after.tree)
    (leads : after.Leads (folder ++ "/" ++ inner) place) : before.tree.item? place = none := by
  obtain ⟨accepted, followed⟩ := leads
  rw [String.append_assoc] at accepted
  rw [here, Path.names_append_slash, String.append_assoc, startOf_append notEmpty] at followed
  have isPlace := Disk.follow_eq_ok followed
  rw [Disk.follow_append, bind_eq_ok] at followed
  obtain ⟨middle, followedFirst, -⟩ := followed
  have missing : follow before.tree (startOf before.here folder) (Path.names folder) =
      .error .missing := by
    -- Otherwise the path would lead where it leads now, and something would have been found there.
    refine Classical.byContradiction fun notMissing => ?_
    rw [grows.follow_eq notMissing] at followedFirst
    have leadsBefore : before.Leads folder middle :=
      ⟨Disk.checkPath_of_append notEmpty accepted, followedFirst⟩
    have isThere := leadsBefore.has
      (Disk.isSome_item?_of_follow (Path.names_ne_nil folder) followedFirst)
    rw [nowhere] at isThere
    cases isThere
  rw [isPlace]
  exact Disk.item?_placeFrom_eq_none missing neverBack neverBackInside

/-! ## Starting a project -/

/-- The platforms that a project is for if some are listed, which are all of them if none is. -/
def platformsOr (listed : List Platform) : List Platform :=
  if listed.isEmpty then Platform.all else listed

theorem perform_startProject (machine : Machine) (parent name : String)
    (platforms : List Platform) :
    machine.perform (startProject host parent name platforms) =
      if machine.has (Path.join parent name) then
        (.error (Cause.alreadyThere (Path.join parent name)).error, machine)
      else
        machine.perform do
          let _ ← within ("Failed to write project " ++ Path.join parent name)
            (writeFiles host parent (Starter.files name (platformsOr platforms)))
          host.print ("New CrossUI project created at " ++ Path.join parent name ++ "\n")
          return Path.join parent name := by
  have isThere : machine.perform (liftM (host.has (Path.join parent name))) =
      (.ok (machine.has (Path.join parent name)), machine) :=
    rfl
  rw [startProject, perform_bind, isThere]
  dsimp only
  split
  · rfl
  · rw [Starter.project_eq_ok, orFailure_ok, pure_bind]
    rfl

theorem perform_startProject_eq_ok {parent name folder : String} {platforms : List Platform}
    (started : before.perform (startProject host parent name platforms) = (.ok folder, after)) :
    folder = Path.join parent name ∧
      before.WroteAll ((Starter.files name (platformsOr platforms)).map (placed parent)) after := by
  rw [perform_startProject] at started
  split at started
  next => cases started
  next =>
    obtain ⟨_, written, isWritten, started⟩ := perform_bind_eq_ok.mp started
    obtain ⟨_, _, isPrinted, started⟩ := perform_bind_eq_ok.mp started
    obtain ⟨isFolder, rfl⟩ := Prod.mk.inj started
    obtain ⟨-, wrote⟩ := perform_writeFiles_eq_ok (perform_within_eq_ok isWritten)
    have whole := wrote.trans (.of_addsFolders (perform_print_addsFolders isPrinted))
    rw [List.append_nil] at whole
    exact ⟨(Except.ok.inj isFolder).symm, whole⟩

theorem perform_startProject_eq_error {parent name : String} {platforms : List Platform}
    {error : Error}
    (failed : before.perform (startProject host parent name platforms) = (.error error, after)) :
    ∃ written, written <+: Starter.files name (platformsOr platforms) ∧
      before.WroteAll (written.map (placed parent)) after := by
  rw [perform_startProject] at failed
  split at failed
  next =>
    obtain ⟨-, rfl⟩ := Prod.mk.inj failed
    exact ⟨[], List.nil_prefix, .of_addsFolders (.refl before)⟩
  next =>
    rcases perform_bind_eq_error.mp failed with notWritten | ⟨_, _, _, failed⟩
    · obtain ⟨_, notWritten, -⟩ := perform_within_eq_error notWritten
      exact (perform_writeFiles_eq_error notWritten).2
    · rcases perform_bind_eq_error.mp failed with impossible | ⟨_, _, _, impossible⟩ <;>
        cases impossible

/-- Whether a project can be started or not, at most its files are written. -/
theorem exists_wroteAll_of_startProject (machine : Machine) (parent name : String)
    (platforms : List Platform) :
    ∃ written, written <+: Starter.files name (platformsOr platforms) ∧
      machine.WroteAll (written.map (placed parent))
        (machine.perform (startProject host parent name platforms)).2 := by
  cases outcome : machine.perform (startProject host parent name platforms) with
  | mk result after =>
      cases result with
      | ok folder => exact ⟨_, List.prefix_refl _, (perform_startProject_eq_ok outcome).2⟩
      | error error => exact perform_startProject_eq_error outcome

theorem lastName_manifestFile_ne : Path.lastName manifestFile ≠ Path.lastName defaultEntry := by
  decide +kernel

theorem agree_of_wroteFiles {parent name : String} {platforms : List Platform}
    (wrote : before.WroteAll ((Starter.files name platforms).map (placed parent)) after) :
    Machine.Agree before.here ((Starter.files name platforms).map (placed parent)) := by
  intro write member other otherMember samePlace
  have sameName := Disk.lastName_eq_of_placeAt_eq (wrote.isOrdinary write member)
    (wrote.isOrdinary other otherMember) samePlace
  simp only [Starter.files, placed, List.map_cons, List.map_nil, List.mem_cons, List.not_mem_nil,
    or_false] at member otherMember
  rcases member with rfl | rfl <;> rcases otherMember with rfl | rfl
  · rfl
  · simp only [Path.lastName_join_append_slash] at sameName
    exact absurd sameName lastName_manifestFile_ne
  · simp only [Path.lastName_join_append_slash] at sameName
    exact absurd sameName.symm lastName_manifestFile_ne
  · rfl

theorem exists_path_of_mem_files {name : String} {platforms : List Platform}
    {file : GeneratedFile} (member : file ∈ Starter.files name platforms) :
    ∃ inner ∈ [manifestFile, defaultEntry], file.path = name ++ "/" ++ inner := by
  simp only [Starter.files, List.mem_cons, List.not_mem_nil, or_false] at member
  rcases member with rfl | rfl
  · exact ⟨manifestFile, by simp, rfl⟩
  · exact ⟨defaultEntry, by simp, rfl⟩

theorem points_notMem_names : ∀ inner ∈ [manifestFile, defaultEntry], ".." ∉ Path.names inner := by
  decide +kernel

/-- The files that a new project consists of. -/
def projectPaths (parent name : String) : List String :=
  [manifestFile, defaultEntry].map fun inner => Path.join parent (name ++ "/" ++ inner)

theorem path_mem_projectPaths {parent name : String} {platforms : List Platform}
    {file : GeneratedFile} (member : file ∈ Starter.files name platforms) :
    Path.join parent file.path ∈ projectPaths parent name := by
  obtain ⟨inner, isInner, isPath⟩ := exists_path_of_mem_files member
  rw [isPath]
  exact List.mem_map_of_mem isInner

/-- Where a project is started, none of its files takes the place of another file. -/
theorem item?_eq_none_of_projectPath {parent name : String} (named : name ≠ "")
    (nowhere : before.has (Path.join parent name) = false)
    (neverBack : NeverLeadsBack before (Path.join parent name)) (here : after.here = before.here)
    (grows : before.tree.Grows after.tree) {path : String}
    (isPath : path ∈ projectPaths parent name) {place : List String}
    (leads : after.Leads path place) : before.tree.item? place = none := by
  obtain ⟨inner, isInner, rfl⟩ := List.mem_map.mp isPath
  rw [String.append_assoc, Path.join_append named, ← String.append_assoc] at leads
  exact item?_eq_none_of_leads (Path.join_ne_empty named parent) nowhere neverBack
    (points_notMem_names inner isInner) here grows leads

/-- Starting a project changes nothing where something is already. Otherwise it changes at most the
files of the project, which it has written if it succeeds. It changes no file that was there before
if the path of the project never leads back from something that is missing. -/
theorem starting_project_keeps_files (machine : Machine) (parent name : String)
    (platforms : List Platform) :
    let result := machine.perform (startProject host parent name platforms)
    (machine.has (Path.join parent name) = true →
      result = (.error (Cause.alreadyThere (Path.join parent name)).error, machine)) ∧
    (∀ folder, result.1 = .ok folder → folder = Path.join parent name ∧
      ∃ project, Starter.project name (platformsOr platforms) = .ok project ∧
        ∀ file ∈ project.files,
          result.2.readText (Path.join parent file.path) = .ok file.content) ∧
    (∀ place, (∀ path ∈ projectPaths parent name, placeAt machine.here path ≠ place) →
      result.2.text? place = machine.text? place) ∧
    (name ≠ "" → NeverLeadsBack machine (Path.join parent name) → ∀ place content,
      machine.text? place = some content → result.2.text? place = some content) := by
  intro result
  obtain ⟨written, isPrefix, wrote⟩ := exists_wroteAll_of_startProject machine parent name platforms
  have isProjectPath (write : String × String) (member : write ∈ written.map (placed parent)) :
      write.1 ∈ projectPaths parent name := by
    obtain ⟨file, isWritten, rfl⟩ := List.mem_map.mp member
    exact path_mem_projectPaths (isPrefix.subset isWritten)
  have refused (taken : machine.has (Path.join parent name) = true) :
      result = (.error (Cause.alreadyThere (Path.join parent name)).error, machine) :=
    (perform_startProject machine parent name platforms).trans (if_pos taken)
  refine ⟨refused, fun folder started => ?_, fun place elsewhere => ?_,
    fun named neverBack place content isText => ?_⟩
  · obtain ⟨isFolder, wroteFiles⟩ :=
      perform_startProject_eq_ok (show result = (.ok folder, result.2) from Prod.ext started rfl)
    refine ⟨isFolder, _, Starter.project_eq_ok name (platformsOr platforms), fun file member => ?_⟩
    have isRead := wroteFiles.readText_eq (agree_of_wroteFiles wroteFiles)
      (List.mem_map_of_mem member)
    exact isRead
  · exact wrote.text?_eq_of_elsewhere fun write member =>
      elsewhere write.1 (isProjectPath write member)
  · cases nowhere : machine.has (Path.join parent name) with
    | true => rw [refused nowhere, isText]
    | false =>
        refine (wrote.text?_eq_of_elsewhere fun write member samePlace => ?_).trans isText
        have nothing := item?_eq_none_of_projectPath named nowhere neverBack wrote.here wrote.grows
          (isProjectPath write member) (samePlace ▸ wrote.leads write member)
        rw [Machine.text?, Disk.Tree.text?_eq_some, nothing] at isText
        cases isText

/-- A machine with a project in a folder of its own. -/
def machineWithProject : Machine where
  tree := .folder [("existing", .folder [("crossui.toml", .file "[project]")])]
  here := []
  output := ""
  tools := []

/-- A project next to another one, whose path leads back, but from a folder that is there. -/
theorem starting_project_keeps_files_of_neighbour :
    let result :=
      machineWithProject.perform (startProject host "existing/.." "new/./next" [.linux])
    (NeverLeadsBack machineWithProject (Path.join "existing/.." "new/./next") ∧
      machineWithProject.text? ["existing", "crossui.toml"] = some "[project]" ∧
      result.2.text? ["existing", "crossui.toml"] = some "[project]") ∧
    (result.1 = .ok "existing/../new/./next" ∧
      ∃ project, Starter.project "new/./next" [.linux] = .ok project ∧
        ∀ file ∈ project.files,
          result.2.readText (Path.join "existing/.." file.path) = .ok file.content) ∧
    (machineWithProject.has (Path.join "." "existing") = true ∧
      machineWithProject.perform (startProject host "." "existing" []) =
        (.error (Cause.alreadyThere (Path.join "." "existing")).error, machineWithProject)) := by
  intro result
  obtain ⟨-, written, -, kept⟩ :=
    starting_project_keeps_files machineWithProject "existing/.." "new/./next" [.linux]
  have succeeds : result.1.toOption.isSome := by
    rw [show result = _ from perform_startProject _ _ _ _]
    decide +kernel
  have started : result.1 = .ok "existing/../new/./next" := by
    cases outcome : result.1 with
    | error error =>
        rw [outcome] at succeeds
        cases succeeds
    | ok folder =>
        obtain ⟨rfl, -⟩ := written folder outcome
        exact congrArg Except.ok (by decide +kernel)
  have neverBack : NeverLeadsBack machineWithProject (Path.join "existing/.." "new/./next") := by
    have isNames : Path.names (Path.join "existing/.." "new/./next") =
        ["existing", "..", "new", ".", "next"] := by
      decide +kernel
    intro outer inner split
    rw [isNames] at split
    -- The two points are the second name.
    rcases outer with _ | ⟨_, _ | ⟨_, _ | ⟨_, _ | ⟨_, _ | ⟨_, outer⟩⟩⟩⟩⟩ <;>
      simp at split
    obtain ⟨rfl, -⟩ := split
    have isStart : startOf machineWithProject.here (Path.join "existing/.." "new/./next") = [] := by
      decide +kernel
    have followed : follow machineWithProject.tree [] (["existing"] ++ [".."]) = .ok [] := rfl
    rw [isStart, followed]
    exact nofun
  refine ⟨⟨neverBack, rfl, kept (by decide) neverBack _ _ rfl⟩, ⟨started, ?_⟩, by decide +kernel, ?_⟩
  · exact (written _ started).2
  · exact (starting_project_keeps_files machineWithProject "." "existing" []).1 (by decide +kernel)

/-- The path of the project leads back from a folder that is missing. Once this folder is there, the
files of the project take the place of those of another project. -/
theorem starting_project_can_replace_files :
    machineWithProject.text? ["existing", "crossui.toml"] = some "[project]" ∧
      (machineWithProject.perform (startProject host "." "missing/../existing" [.linux])).2.text?
        ["existing", "crossui.toml"] ≠ some "[project]" := by
  refine ⟨rfl, ?_⟩
  rw [perform_startProject]
  decide +kernel

end Action

end Polyview
