import Polyview.Proofs.Action.Building
import Polyview.Proofs.Disk.Layout

/-!
# Writing projects where there is room

Where nothing stands in the way of the files of projects, writing them succeeds, one file after the
other and one project after the other.
-/

namespace Polyview.Action

open Disk (Machine)
open Disk.Machine (host LeadsInto HasRoom IsLayout ChangesToward)
open Polyview.Path (beginning names)

variable {before middle after : Machine} {root : List String} {output : String}
  {texts : List String}

theorem hasRoom_print {machine : Machine} {stem : String}
    (hasRoom : machine.HasRoom stem root texts) (text : String) :
    (machine.print text).HasRoom stem root texts where
  leadsInto := ⟨hasRoom.leadsInto.isBeginning, hasRoom.leadsInto.followed,
    hasRoom.leadsInto.isFolder⟩
  isOpen := hasRoom.isOpen
  notFolder := hasRoom.notFolder

theorem exists_writeFile (hasRoom : before.HasRoom (beginning output) root texts)
    (isLayout : IsLayout (beginning output) texts) {file : GeneratedFile}
    (member : file.path ∈ texts) :
    ∃ after, before.perform (writeFile output file) = (.ok (), after) ∧
      before.FilledIn (root ++ names file.path) file.content after := by
  obtain ⟨outer, name, isPlain, isEntryName, isInside⟩ := isLayout.isInside _ member
  have isRelative : Path.isAbsolute file.path = false := by
    rw [isInside]
    exact (Path.IsPlain.inside isPlain isEntryName).isAbsolute_eq_false
  obtain ⟨folder, middle, after, isFolder, made, written, filled⟩ :=
    hasRoom.exists_filledIn isLayout member file.content
  rw [← Path.join_of_relative isRelative] at isFolder written
  have madeAround : before.perform (makeAround (Path.join output file.path)) = (.ok (), middle) := by
    rw [makeAround, isFolder]
    exact perform_orFail_of_ok diskError made
  exact ⟨after, perform_bind_eq_ok.mpr ⟨(), middle, madeAround,
    perform_orFail_of_ok diskError written⟩, filled⟩

/-- All files of a layout can be written one after the other, in any order and any number. -/
theorem exists_writeFiles (hasRoom : before.HasRoom (beginning output) root texts)
    (isLayout : IsLayout (beginning output) texts) {files : List GeneratedFile}
    (members : ∀ file ∈ files, file.path ∈ texts) :
    ∃ paths after, before.perform (writeFiles host output files) = (.ok paths, after) ∧
      after.HasRoom (beginning output) root texts ∧
      before.ChangesToward (texts.map fun text => root ++ names text) after := by
  induction files generalizing before with
  | nil => exact ⟨[], before, rfl, hasRoom, .refl before _⟩
  | cons file rest ih =>
      have member := members file List.mem_cons_self
      obtain ⟨middle, written, filled⟩ := exists_writeFile hasRoom isLayout member
      have hasRoomLater := hasRoom.of_filledIn isLayout member filled
      have changes := filled.changesToward
        (List.mem_map_of_mem (f := fun text => root ++ names text) member)
      obtain ⟨paths, after, writtenRest, hasRoomAfter, changesRest⟩ :=
        ih hasRoomLater fun other isOther => members other (List.mem_cons_of_mem file isOther)
      refine ⟨Path.join output file.path :: paths, after, ?_, hasRoomAfter,
        changes.trans changesRest⟩
      rw [writeFiles_cons]
      exact perform_bind_eq_ok.mpr ⟨(), middle, written,
        perform_bind_eq_ok.mpr ⟨paths, after, writtenRest, rfl⟩⟩

/-- Projects can be written one after the other where there is room for the files of all. -/
theorem exists_buildEach (hasRoom : before.HasRoom (beginning output) root texts)
    (isLayout : IsLayout (beginning output) texts) {interface : Interface}
    {platforms : List Platform}
    (members : ∀ platform ∈ platforms, ∀ file ∈ interface.files platform, file.path ∈ texts) :
    ∃ paths after, before.perform (buildEach host interface output platforms) =
        (.ok paths, after) ∧
      after.HasRoom (beginning output) root texts := by
  induction platforms generalizing before with
  | nil => exact ⟨[], before, rfl, hasRoom⟩
  | cons platform rest ih =>
      obtain ⟨first, middle, written, hasRoomLater, -⟩ :=
        exists_writeFiles hasRoom isLayout (members platform List.mem_cons_self)
      let remark := "Generated " ++ platform.framework ++ " project (" ++
        Nat.repr first.length ++ ") in " ++
        Path.join (Path.join output "Build") platform.folder ++ "\n"
      obtain ⟨later, after, built, hasRoomAfter⟩ := ih (hasRoom_print hasRoomLater remark)
        fun other isOther => members other (List.mem_cons_of_mem platform isOther)
      refine ⟨first ++ later, after, ?_, hasRoomAfter⟩
      have printed : middle.perform (liftM (host.print remark)) = (.ok (), middle.print remark) :=
        rfl
      rw [buildEach_cons]
      exact perform_bind_eq_ok.mpr ⟨first, middle, perform_within_of_ok _ written,
        perform_bind_eq_ok.mpr ⟨(), _, printed, perform_bind_eq_ok.mpr ⟨later, after, built, rfl⟩⟩⟩

end Polyview.Action
