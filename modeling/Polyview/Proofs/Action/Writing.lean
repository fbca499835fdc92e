import Polyview.Action.Basic
import Polyview.Build.Launch
import Polyview.Proofs.Disk.Machine
import Polyview.Proofs.Result

/-!
# Actions on a machine

An action on a machine goes on from the machine that its first step leaves behind, or ends with the
error of this step. Writing the files of a project writes the first of them, up to one that the
system refuses if there is such a file.
-/

namespace Polyview

/-- The result of an action on a machine, and the machine that it leaves behind. -/
def Disk.Machine.perform {α : Type} (machine : Machine)
    (action : ExceptT Action.Error (StateM Machine) α) : Except Action.Error α × Machine :=
  Id.run (action.run.run machine)

namespace Action

open Disk (Machine Fault)
open Disk.Machine (host WroteAll)

variable {α β : Type} {before after : Machine}

/-! ## Steps -/

@[simp]
theorem perform_pure (machine : Machine) (value : α) :
    machine.perform (pure value) = (.ok value, machine) :=
  rfl

/-- An action goes on after its first step if this step does not fail. -/
theorem perform_bind (machine : Machine) (action : ExceptT Error (StateM Machine) α)
    (next : α → ExceptT Error (StateM Machine) β) :
    machine.perform (action >>= next) =
      match machine.perform action with
      | (.ok value, after) => after.perform (next value)
      | (.error error, after) => (.error error, after) := by
  rw [Machine.perform, Machine.perform, ExceptT.run_bind, StateT.run_bind, Id.run_bind]
  cases Id.run (action.run.run machine) with
  | mk result after => cases result <;> rfl

theorem perform_bind_eq_ok {action : ExceptT Error (StateM Machine) α}
    {next : α → ExceptT Error (StateM Machine) β} {value : β} :
    before.perform (action >>= next) = (.ok value, after) ↔
      ∃ first middle, before.perform action = (.ok first, middle) ∧
        middle.perform (next first) = (.ok value, after) := by
  rw [perform_bind]
  obtain ⟨result, middle⟩ := before.perform action
  cases result with
  | error error => simp
  | ok first => simp [and_assoc]

theorem perform_bind_eq_error {action : ExceptT Error (StateM Machine) α}
    {next : α → ExceptT Error (StateM Machine) β} {error : Error} :
    before.perform (action >>= next) = (.error error, after) ↔
      before.perform action = (.error error, after) ∨
        ∃ first middle, before.perform action = (.ok first, middle) ∧
          middle.perform (next first) = (.error error, after) := by
  rw [perform_bind]
  obtain ⟨result, middle⟩ := before.perform action
  cases result with
  | error error => simp
  | ok first => simp [and_assoc]

theorem perform_orFail {ε : Type} (machine : Machine) (fault : ε → Error)
    (step : StateM Machine (Except ε α)) :
    machine.perform (orFail fault step) =
      ((step machine).1.mapError fault, (step machine).2) := by
  rw [orFail, perform_bind]
  have lifted : machine.perform (liftM step) = (.ok (step machine).1, (step machine).2) := rfl
  rw [lifted]
  cases (step machine).1 <;> rfl

theorem perform_readText (machine : Machine) (path : String) :
    machine.perform (orFail diskError (host.readText path)) =
      ((machine.readText path).mapError diskError, machine) :=
  perform_orFail machine diskError (host.readText path)

theorem perform_within (machine : Machine) (context : String)
    (action : ExceptT Error (StateM Machine) α) :
    machine.perform (within context action) =
      ((machine.perform action).1.mapError (Error.within context), (machine.perform action).2) := by
  rfl

theorem eq_ok_of_mapError {ε δ : Type} {fault : ε → δ} {result : Except ε α}
    {machine : Machine} {value : α}
    (done : (result.mapError fault, machine) = (.ok value, after)) :
    (result, machine) = (.ok value, after) := by
  obtain ⟨isValue, rfl⟩ := Prod.mk.inj done
  rw [mapError_eq_ok.mp isValue]

theorem eq_error_of_mapError {ε δ : Type} {fault : ε → δ} {result : Except ε α}
    {machine : Machine} {error : δ}
    (failed : (result.mapError fault, machine) = (.error error, after)) :
    ∃ problem, (result, machine) = (.error problem, after) ∧ error = fault problem := by
  obtain ⟨isError, rfl⟩ := Prod.mk.inj failed
  obtain ⟨problem, rfl, rfl⟩ := mapError_eq_error.mp isError
  exact ⟨problem, rfl, rfl⟩

theorem perform_orFail_eq_ok {ε : Type} {fault : ε → Error}
    {step : StateM Machine (Except ε α)} {value : α}
    (done : before.perform (orFail fault step) = (.ok value, after)) :
    step before = (.ok value, after) := by
  rw [perform_orFail] at done
  exact eq_ok_of_mapError done

theorem perform_orFail_of_ok {ε : Type} (fault : ε → Error)
    {step : StateM Machine (Except ε α)} {value : α} (done : step before = (.ok value, after)) :
    before.perform (orFail fault step) = (.ok value, after) := by
  rw [perform_orFail, done, mapError_ok]

theorem perform_orFail_eq_error {ε : Type} {fault : ε → Error}
    {step : StateM Machine (Except ε α)} {error : Error}
    (failed : before.perform (orFail fault step) = (.error error, after)) :
    ∃ problem, step before = (.error problem, after) ∧ error = fault problem := by
  rw [perform_orFail] at failed
  exact eq_error_of_mapError failed

theorem perform_within_eq_ok {context : String} {action : ExceptT Error (StateM Machine) α}
    {value : α} (done : before.perform (within context action) = (.ok value, after)) :
    before.perform action = (.ok value, after) := by
  rw [perform_within] at done
  exact eq_ok_of_mapError done

theorem perform_within_of_ok (context : String) {action : ExceptT Error (StateM Machine) α}
    {value : α} (done : before.perform action = (.ok value, after)) :
    before.perform (within context action) = (.ok value, after) := by
  rw [perform_within, done, mapError_ok]

theorem perform_within_eq_error {context : String} {action : ExceptT Error (StateM Machine) α}
    {error : Error} (failed : before.perform (within context action) = (.error error, after)) :
    ∃ inner, before.perform action = (.error inner, after) ∧ error = inner.within context := by
  rw [perform_within] at failed
  exact eq_error_of_mapError failed

@[simp]
theorem orFailure_ok (value : α) : orFailure (m := StateM Machine) (.ok value) = pure value :=
  rfl

/-- Printing changes no file. -/
theorem perform_print_addsFolders {text : String} {done : Unit}
    (printed : before.perform (liftM (host.print text)) = (.ok done, after)) :
    before.AddsFolders after := by
  obtain ⟨-, rfl⟩ := Prod.mk.inj printed
  exact ⟨rfl, fun _ => .inl rfl⟩

/-! ## Files below a folder -/

/-- The path and the content of a generated file below a folder. -/
def placed (root : String) (file : GeneratedFile) : String × String :=
  (Path.join root file.path, file.content)

/-- The folders around a path. -/
def makeAround (path : String) : ExceptT Error (StateM Machine) Unit :=
  match Path.parent? path with
  | some folder => orFail diskError (host.makeFolders folder)
  | none => pure ()

/-- A file below a folder, with the folders around it. -/
def writeFile (root : String) (file : GeneratedFile) : ExceptT Error (StateM Machine) Unit := do
  makeAround (Path.join root file.path)
  orFail diskError (host.writeText (Path.join root file.path) file.content)

theorem writeFiles_cons (root : String) (file : GeneratedFile) (rest : List GeneratedFile) :
    writeFiles host root (file :: rest) = do
      writeFile root file
      let paths ← writeFiles host root rest
      return Path.join root file.path :: paths := by
  rw [writeFiles, writeFile, makeAround]
  split <;> simp [*]

theorem perform_makeAround_addsFolders (machine : Machine) (path : String) :
    machine.AddsFolders (machine.perform (makeAround path)).2 := by
  unfold makeAround
  split
  · rw [perform_orFail]
    exact machine.makeFolders_addsFolders _
  · exact .refl machine

theorem perform_makeAround_eq_error {path : String} {error : Error}
    (failed : before.perform (makeAround path) = (.error error, after)) :
    ∃ fault, error = diskError fault := by
  unfold makeAround at failed
  split at failed
  · obtain ⟨fault, -, isError⟩ := perform_orFail_eq_error failed
    exact ⟨fault, isError⟩
  · cases failed

theorem perform_writeFile_eq_ok {root : String} {file : GeneratedFile} {done : Unit}
    (written : before.perform (writeFile root file) = (.ok done, after)) :
    before.WroteAll [placed root file] after := by
  obtain ⟨_, middle, made, written⟩ := perform_bind_eq_ok.mp written
  have adds := perform_makeAround_addsFolders before (Path.join root file.path)
  rw [made] at adds
  have wrote := Machine.writeText_eq_ok (perform_orFail_eq_ok written)
  exact (WroteAll.of_addsFolders adds).trans wrote.wroteAll

/-- A file that cannot be written leaves at most the folders around it behind. -/
theorem perform_writeFile_eq_error {root : String} {file : GeneratedFile} {error : Error}
    (failed : before.perform (writeFile root file) = (.error error, after)) :
    (∃ fault, error = diskError fault) ∧ before.AddsFolders after := by
  have adds := perform_makeAround_addsFolders before (Path.join root file.path)
  rcases perform_bind_eq_error.mp failed with made | ⟨_, middle, made, failed⟩
  · rw [made] at adds
    exact ⟨perform_makeAround_eq_error made, adds⟩
  · rw [made] at adds
    obtain ⟨fault, refused, isError⟩ := perform_orFail_eq_error failed
    obtain rfl := Machine.writeText_eq_error refused
    exact ⟨⟨fault, isError⟩, adds⟩

theorem perform_writeFiles_eq_ok {root : String} {files : List GeneratedFile}
    {paths : List String}
    (written : before.perform (writeFiles host root files) = (.ok paths, after)) :
    paths = files.map (fun file => Path.join root file.path) ∧
      before.WroteAll (files.map (placed root)) after := by
  induction files generalizing before paths with
  | nil =>
      obtain ⟨result, rfl⟩ := Prod.mk.inj written
      exact ⟨(Except.ok.inj result).symm, .of_addsFolders (.refl before)⟩
  | cons file rest ih =>
      rw [writeFiles_cons] at written
      obtain ⟨_, middle, first, written⟩ := perform_bind_eq_ok.mp written
      obtain ⟨later, last, restWritten, written⟩ := perform_bind_eq_ok.mp written
      obtain ⟨result, rfl⟩ := Prod.mk.inj written
      obtain rfl := Except.ok.inj result
      obtain ⟨isMap, wroteRest⟩ := ih restWritten
      exact ⟨congrArg _ isMap, (perform_writeFile_eq_ok first).trans wroteRest⟩

/-- Writing files fails at one of them, with the files before it written. -/
theorem perform_writeFiles_eq_error {root : String} {files : List GeneratedFile} {error : Error}
    (failed : before.perform (writeFiles host root files) = (.error error, after)) :
    (∃ fault, error = diskError fault) ∧
      ∃ written, written <+: files ∧ before.WroteAll (written.map (placed root)) after := by
  induction files generalizing before with
  | nil => cases failed
  | cons file rest ih =>
      rw [writeFiles_cons] at failed
      rcases perform_bind_eq_error.mp failed with first | ⟨_, middle, first, failed⟩
      · obtain ⟨isFault, adds⟩ := perform_writeFile_eq_error first
        exact ⟨isFault, [], List.nil_prefix, .of_addsFolders adds⟩
      · have wrote := perform_writeFile_eq_ok first
        rcases perform_bind_eq_error.mp failed with later | ⟨_, _, _, impossible⟩
        · obtain ⟨isFault, written, isPrefix, wroteRest⟩ := ih later
          exact ⟨isFault, file :: written, List.cons_prefix_cons.mpr ⟨rfl, isPrefix⟩,
            wrote.trans wroteRest⟩
        · cases impossible

end Action

end Polyview
