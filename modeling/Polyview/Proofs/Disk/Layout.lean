import Polyview.Proofs.Disk.Room

/-!
# Layouts of files

Files are to be written one after the other, each with the folders around it. If no file is on the
way to another one, and nothing stands in the way at first, then nothing stands in the way of any of
them later, and everything that is on the way to none of them stays as it was.
-/

namespace Polyview.Disk

open Polyview.Path (IsPlain names)

namespace Machine

variable {machine before after : Machine} {stem text : String} {root place : List String}

/-- Paths of files below a beginning of paths. None of the files is on the way to another one. -/
structure IsLayout (stem : String) (texts : List String) : Prop where
  accepted : ∀ text ∈ texts, checkPath (stem ++ text) = .ok ()
  isInside : ∀ text ∈ texts, ∃ outer name,
    IsPlain outer ∧ IsEntryName name ∧ text = outer ++ "/" ++ name
  apart : ∀ first ∈ texts, ∀ second ∈ texts,
    names first <+: names second → names first = names second

/-- Nothing stands in the way of files at plain paths. -/
structure HasRoom (machine : Machine) (stem : String) (root : List String)
    (texts : List String) : Prop where
  leadsInto : machine.LeadsInto stem root
  isOpen : ∀ text ∈ texts, IsOpen machine.tree (root ++ (names text).dropLast)
  notFolder : ∀ text ∈ texts, machine.tree.item? (root ++ names text) ≠ some .folder

/-- A machine has become another one that differs at most on the way to some places. -/
structure ChangesToward (before : Machine) (places : List (List String)) (after : Machine) :
    Prop where
  here : after.here = before.here
  entries : ∀ other, (∀ place ∈ places, ¬ other <+: place) →
    after.tree.item? other = before.tree.item? other

namespace ChangesToward

variable {middle : Machine} {places : List (List String)}

theorem refl (machine : Machine) (places : List (List String)) :
    machine.ChangesToward places machine :=
  ⟨rfl, fun _ _ => rfl⟩

theorem trans (first : before.ChangesToward places middle)
    (second : middle.ChangesToward places after) : before.ChangesToward places after :=
  ⟨second.here.trans first.here, fun other elsewhere =>
    (second.entries other elsewhere).trans (first.entries other elsewhere)⟩

end ChangesToward

/-- A folder with nothing under a name has room for files under this name. -/
theorem hasRoom_of_free {texts : List String} {first : String}
    (leadsInto : machine.LeadsInto stem root)
    (isFree : machine.tree.item? (root ++ [first]) = none)
    (startWith : ∀ text ∈ texts, ∃ rest, names text = first :: rest) :
    machine.HasRoom stem root texts where
  leadsInto := leadsInto
  isOpen text member := by
    obtain ⟨rest, areNames⟩ := startWith text member
    have isOpen := isOpen_of_free leadsInto.isFolder isFree rest
    rw [← areNames] at isOpen
    exact isOpen.dropLast
  notFolder text member := by
    obtain ⟨rest, areNames⟩ := startWith text member
    have nothing := Tree.item?_append_eq_none isFree rest
    rw [areNames, List.append_cons, nothing]
    exact nofun

/-- A machine has become another one by getting a file at a place, with the folders around it. -/
structure FilledIn (before : Machine) (place : List String) (content : String) (after : Machine) :
    Prop where
  here : after.here = before.here
  grows : before.tree.Grows after.tree
  entries : ∀ other, after.tree.item? other =
    if other = place then some (.file content)
    else if other <+: place then some .folder else before.tree.item? other

theorem FilledIn.changesToward {places : List (List String)} {content : String}
    (filled : before.FilledIn place content after) (member : place ∈ places) :
    before.ChangesToward places after := by
  refine ⟨filled.here, fun other elsewhere => ?_⟩
  have notToward := elsewhere place member
  have notPlace : other ≠ place := by
    rintro rfl
    exact notToward (List.prefix_refl other)
  rw [filled.entries, if_neg notPlace, if_neg notToward]

/-- Where there is room for files, each of them is written, with the folders around it. -/
theorem HasRoom.exists_filledIn {texts : List String} (hasRoom : machine.HasRoom stem root texts)
    (isLayout : IsLayout stem texts) (member : text ∈ texts) (content : String) :
    ∃ folder middle after, Path.parent? (stem ++ text) = some folder ∧
      machine.makeFolders folder = (.ok (), middle) ∧
      middle.writeText (stem ++ text) content = (.ok (), after) ∧
      machine.FilledIn (root ++ names text) content after := by
  obtain ⟨outer, name, isPlainOuter, isEntryName, rfl⟩ := isLayout.isInside text member
  have isPlain := IsPlain.inside isPlainOuter isEntryName
  have accepted := isLayout.accepted _ member
  have areNames := Path.names_append_name isEntryName.noSlash outer
  have isAround : (names (outer ++ "/" ++ name)).dropLast = names outer := by
    rw [areNames, List.dropLast_concat]
  have acceptedOuter := checkPath_outer isPlainOuter accepted
  have isOpen := hasRoom.isOpen _ member
  rw [isAround] at isOpen
  obtain ⟨middle, madeFolders, made⟩ :=
    hasRoom.leadsInto.exists_makeFolders isPlainOuter acceptedOuter isOpen
  have grows := made.grows isOpen
  have leadsInto := hasRoom.leadsInto.of_grows made.here grows
  have isFolder : middle.tree.item? (root ++ (names (outer ++ "/" ++ name)).dropLast) =
      some .folder := by
    rw [isAround, made.entries, if_pos (List.prefix_refl _)]
  have sameAround (other : List String) (notPlace : other ≠ root ++ names (outer ++ "/" ++ name)) :
      other <+: root ++ names (outer ++ "/" ++ name) ↔ other <+: root ++ names outer := by
    rw [areNames, ← List.append_assoc] at notPlace ⊢
    exact List.prefix_concat_iff.trans (or_iff_right notPlace)
  -- None of the folders that have been made is where the file is to be.
  have notInside : ¬ root ++ names (outer ++ "/" ++ name) <+: root ++ names outer := by
    intro isInside
    have isShorter := ((List.prefix_append_right_inj root).mp isInside).length_le
    rw [areNames, List.length_append, List.length_singleton] at isShorter
    omega
  have notFolder : middle.tree.item? (root ++ names (outer ++ "/" ++ name)) ≠ some .folder := by
    rw [made.entries, if_neg notInside]
    exact hasRoom.notFolder _ member
  obtain ⟨after, written, here, growsLater, entries⟩ :=
    leadsInto.exists_writeText isPlain accepted isFolder notFolder content
  refine ⟨stem ++ outer, middle, after, isPlainOuter.parent?_inside isEntryName stem, madeFolders,
    written, here.trans made.here, grows.trans growsLater, fun other => ?_⟩
  rw [entries, made.entries]
  by_cases isPlace : other = root ++ names (outer ++ "/" ++ name)
  · rw [if_pos isPlace, if_pos isPlace]
  · rw [if_neg isPlace, if_neg isPlace]
    simp only [sameAround other isPlace]

/-- When one of the files has been written, there is still room for all of them. -/
theorem HasRoom.of_filledIn {texts : List String} (hasRoom : before.HasRoom stem root texts)
    (isLayout : IsLayout stem texts) (member : text ∈ texts) {content : String}
    (filled : before.FilledIn (root ++ names text) content after) :
    after.HasRoom stem root texts where
  leadsInto := hasRoom.leadsInto.of_grows filled.here filled.grows
  isOpen other otherMember around isInside oldContent := by
    rw [filled.entries]
    split
    next isPlace =>
      -- Otherwise the new file would be on the way to another one.
      subst isPlace
      have isShorter := (List.prefix_append_right_inj root).mp isInside
      have sameNames := isLayout.apart text member other otherMember
        (isShorter.trans (List.dropLast_prefix _))
      have notShorter := isShorter.length_le
      have someNames := List.length_pos_iff.mpr (Path.names_ne_nil other)
      rw [sameNames, List.length_dropLast] at notShorter
      omega
    next =>
      split
      · exact nofun
      · exact hasRoom.isOpen other otherMember around isInside oldContent
  notFolder other otherMember := by
    rw [filled.entries]
    split
    next => exact nofun
    next notPlace =>
      split
      next isInside =>
        have sameNames := isLayout.apart other otherMember text member
          ((List.prefix_append_right_inj root).mp isInside)
        exact absurd (congrArg (root ++ ·) sameNames) notPlace
      next => exact hasRoom.notFolder other otherMember

end Machine

end Polyview.Disk
