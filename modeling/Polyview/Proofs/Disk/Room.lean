import Polyview.Proofs.Disk.Inside
import Polyview.Proofs.Disk.Plain

/-!
# Room for files

Where no file stands in the way, the folders on a plain path can be made, from the first one on that
is missing, and nothing else changes. In a folder that is there, a file can be written unless a
folder has its name.
-/

namespace Polyview.Disk

open Polyview.Path (IsPlain names)

/-- Neither a place nor a folder around it is a file. -/
def IsOpen (tree : Tree) (place : List String) : Prop :=
  ∀ outer, outer <+: place → ∀ content, tree.item? outer ≠ some (.file content)

variable {tree : Tree} {root place : List String}

theorem IsOpen.around {outer : List String} (isOpen : IsOpen tree place)
    (isPrefix : outer <+: place) : IsOpen tree outer :=
  fun around isAround => isOpen around (isAround.trans isPrefix)

theorem IsOpen.dropLast {names : List String} (isOpen : IsOpen tree (root ++ names)) :
    IsOpen tree (root ++ names.dropLast) :=
  isOpen.around ((List.prefix_append_right_inj root).mpr (List.dropLast_prefix names))

theorem isOpen_of_folder (isFolder : tree.item? place = some .folder) : IsOpen tree place := by
  rintro outer ⟨inner, rfl⟩ content isFile
  cases inner with
  | nil =>
      rw [List.append_nil, isFile] at isFolder
      cases isFolder
  | cons name inner =>
      rw [Tree.item?_eq_folder_of_append (Option.isSome_of_eq_some isFolder)] at isFile
      cases isFile

theorem isOpen_of_free {name : String} (isFolder : tree.item? root = some .folder)
    (isFree : tree.item? (root ++ [name]) = none) (inner : List String) :
    IsOpen tree (root ++ name :: inner) := by
  intro outer isPrefix content
  rcases List.prefix_or_prefix_of_prefix isPrefix (List.prefix_append root _) with
    inRoot | ⟨more, rfl⟩
  · exact isOpen_of_folder isFolder outer inRoot content
  · cases more with
    | nil =>
        rw [List.append_nil, isFolder]
        exact nofun
    | cons next more =>
        obtain ⟨rfl, -⟩ := List.cons_prefix_cons.mp
          ((List.prefix_append_right_inj root).mp isPrefix)
        rw [List.append_cons, Tree.item?_append_eq_none isFree]
        exact nofun

theorem IsOpen.none_or_folder (isOpen : IsOpen tree place) :
    tree.item? place = none ∨ tree.item? place = some .folder := by
  cases found : tree.item? place with
  | none => exact .inl rfl
  | some entry =>
      cases entry with
      | file content => exact absurd found (isOpen place (List.prefix_refl place) content)
      | folder => exact .inr rfl

/-! ## Following plain paths -/

theorem enter_entryName {name : String} (isEntryName : IsEntryName name)
    (isFolder : tree.item? place = some .folder) :
    enter tree place name =
      if (tree.item? (place ++ [name])).isSome then .ok (place ++ [name])
      else .error .missing := by
  have notSpecial : ¬(name = "" ∨ name = "." ∨ name = "..") := by
    simp [isEntryName.notEmpty, isEntryName.notPoint, isEntryName.notPoints]
  simp only [enter, isFolder]
  rw [if_neg notSpecial, if_neg (Nat.not_lt.mpr isEntryName.fits)]

theorem follow_entryName {name : String} (isEntryName : IsEntryName name)
    (isFolder : tree.item? place = some .folder) :
    follow tree place [name] =
      if (tree.item? (place ++ [name])).isSome then .ok (place ++ [name])
      else .error .missing := by
  rw [follow_cons, enter_entryName isEntryName isFolder]
  split <;> rfl

/-- The names of a plain path lead to something if there is something, and otherwise nowhere. -/
theorem follow_names {text : String} (isPlain : IsPlain text)
    (isFolder : tree.item? root = some .folder)
    (isOpen : IsOpen tree (root ++ (names text).dropLast)) :
    follow tree root (names text) =
      if (tree.item? (root ++ names text)).isSome then .ok (root ++ names text)
      else .error .missing := by
  induction isPlain with
  | name isEntryName =>
      rw [Path.names_of_noSlash isEntryName.noSlash]
      exact follow_entryName isEntryName isFolder
  | @inside outer name isPlain isEntryName ih =>
      rw [Path.names_append_name isEntryName.noSlash, List.dropLast_concat] at isOpen
      have followedOuter := ih isOpen.dropLast
      rw [Path.names_append_name isEntryName.noSlash, follow_append, followedOuter,
        ← List.append_assoc]
      rcases isOpen.none_or_folder with nothing | isFolderAround
      · have nothingInside := Tree.item?_append_eq_none nothing [name]
        rw [nothing, nothingInside]
        rfl
      · rw [isFolderAround]
        exact follow_entryName isEntryName isFolderAround

theorem placeFrom_names {text : String} (isPlain : IsPlain text) (place : List String) :
    placeFrom place (names text) = place ++ names text := by
  induction isPlain with
  | name isEntryName =>
      rw [Path.names_of_noSlash isEntryName.noSlash]
      exact isEntryName.toIsOrdinary.stepFrom place
  | inside isPlain isEntryName ih =>
      rw [Path.names_append_name isEntryName.noSlash, placeFrom_append, ih, ← List.append_assoc]
      exact isEntryName.toIsOrdinary.stepFrom _

/-- The folder around what a plain path leads to is found if it is there. -/
theorem follow_dropLast_names {text : String} (isPlain : IsPlain text)
    (isFolder : tree.item? root = some .folder)
    (isFolderAround : tree.item? (root ++ (names text).dropLast) = some .folder) :
    follow tree root (names text).dropLast = .ok (root ++ (names text).dropLast) := by
  cases isPlain with
  | name isEntryName =>
      rw [Path.names_of_noSlash isEntryName.noSlash, List.dropLast_singleton, List.append_nil]
      rfl
  | @inside outer name isPlain isEntryName =>
      rw [Path.names_append_name isEntryName.noSlash, List.dropLast_concat] at isFolderAround ⊢
      have isOpen := isOpen_of_folder isFolderAround
      rw [follow_names isPlain isFolder isOpen.dropLast, isFolderAround]
      rfl

theorem checkPath_outer {stem outer name : String} (isPlain : IsPlain outer)
    (accepted : checkPath (stem ++ (outer ++ "/" ++ name)) = .ok ()) :
    checkPath (stem ++ outer) = .ok () := by
  have notEmpty : stem ++ outer ≠ "" := by simp [isPlain.ne_empty]
  rw [String.append_assoc, ← String.append_assoc] at accepted
  exact checkPath_of_append notEmpty accepted

theorem destinationIn_entryName {name : String} (isEntryName : IsEntryName name)
    (isFolder : tree.item? place = some .folder) :
    destinationIn tree place name =
      .ok (if (tree.item? (place ++ [name])).isSome then .present (place ++ [name])
        else .free place name) := by
  rw [Tree.item?, Option.map_eq_some_iff] at isFolder
  obtain ⟨found, isFound, isEntry⟩ := isFolder
  cases found with
  | file content => cases isEntry
  | folder entries =>
      have notHere : ¬(name = "" ∨ name = ".") :=
        not_or.mpr ⟨isEntryName.notEmpty, isEntryName.notPoint⟩
      rw [destinationIn, isFound, Tree.item?, Option.isSome_map]
      dsimp only
      rw [if_neg notHere, if_neg isEntryName.notPoints, if_neg (Nat.not_lt.mpr isEntryName.fits)]
      split <;> rfl

/-! ## Beginnings of paths -/

namespace Machine

variable {machine before after : Machine} {stem text : String}

/-- What goes on from a beginning of paths is looked for in a folder. -/
structure LeadsInto (machine : Machine) (stem : String) (root : List String) : Prop where
  isBeginning : Path.IsBeginning stem
  followed : follow machine.tree (startOf machine.here stem) (names stem).dropLast = .ok root
  isFolder : machine.tree.item? root = some .folder

namespace LeadsInto

theorem of_grows (leadsInto : before.LeadsInto stem root) (here : after.here = before.here)
    (grows : before.tree.Grows after.tree) : after.LeadsInto stem root := by
  have notMissing : follow before.tree (startOf before.here stem) (names stem).dropLast ≠
      .error .missing := by
    rw [leadsInto.followed]
    exact nofun
  obtain ⟨later, isLater, sameKind⟩ := grows root .folder leadsInto.isFolder
  have isFolder : after.tree.item? root = some .folder := by
    cases later with
    | file content => cases sameKind
    | folder => exact isLater
  refine ⟨leadsInto.isBeginning, ?_, isFolder⟩
  rw [here, grows.follow_eq notMissing, leadsInto.followed]

/-- Below a folder, paths go on from the path of the folder with a slash behind it. -/
theorem of_leads {path : String} (leads : machine.Leads path root)
    (isFolder : machine.tree.item? root = some .folder) :
    machine.LeadsInto (Path.beginning path) root := by
  obtain ⟨-, notEmpty, -⟩ := checkPath_eq_ok.mp leads.accepted
  refine ⟨Path.isBeginning_beginning path, ?_, isFolder⟩
  have followed := leads.followed
  unfold Path.beginning
  split
  next ends =>
    have endsInSlash := ends.resolve_left (by simpa using notEmpty)
    obtain ⟨before, rfl⟩ := Path.exists_append_slash endsInSlash
    rw [Path.names_slash] at followed ⊢
    obtain ⟨work, followedBefore, -, followedEmpty⟩ :=
      follow_append_eq_ok (List.cons_ne_nil "" []) followed
    obtain rfl := follow_eq_ok followedEmpty
    rw [List.dropLast_concat, followedBefore]
  next =>
    rw [Path.names_slash, List.dropLast_concat, startOf, Path.isAbsolute_append notEmpty]
    exact followed

theorem append_point (leadsInto : machine.LeadsInto stem root) :
    machine.LeadsInto (stem ++ "./") root := by
  have pointNames : names "./" = [".", ""] := by decide
  have isRelative : Path.isAbsolute "./" = false := by decide
  refine ⟨.inr (by simp), ?_, leadsInto.isFolder⟩
  rw [Path.names_append leadsInto.isBeginning, startOf_append_of_relative isRelative, pointNames,
    List.dropLast_append_of_ne_nil (List.cons_ne_nil _ _), follow_append, leadsInto.followed,
    ok_bind, List.dropLast_cons_cons, List.dropLast_singleton, follow_cons, enter, leadsInto.isFolder]
  rfl

theorem follow_eq (leadsInto : machine.LeadsInto stem root) (isPlain : IsPlain text)
    (inner : List String) :
    follow machine.tree (startOf machine.here (stem ++ text)) ((names stem).dropLast ++ inner) =
      follow machine.tree root inner := by
  rw [startOf_append_of_relative isPlain.isAbsolute_eq_false, follow_append, leadsInto.followed,
    ok_bind]

theorem follow_names (leadsInto : machine.LeadsInto stem root) (isPlain : IsPlain text) :
    follow machine.tree (startOf machine.here (stem ++ text)) (names (stem ++ text)) =
      follow machine.tree root (names text) := by
  rw [Path.names_append leadsInto.isBeginning, leadsInto.follow_eq isPlain]

theorem follow_dropLast (leadsInto : machine.LeadsInto stem root) (isPlain : IsPlain text) :
    follow machine.tree (startOf machine.here (stem ++ text)) (names (stem ++ text)).dropLast =
      follow machine.tree root (names text).dropLast := by
  rw [Path.names_append leadsInto.isBeginning,
    List.dropLast_append_of_ne_nil (Path.names_ne_nil text), leadsInto.follow_eq isPlain]

theorem leads (leadsInto : machine.LeadsInto stem root) (isPlain : IsPlain text)
    (accepted : checkPath (stem ++ text) = .ok ())
    (followed : follow machine.tree root (names text) = .ok place) :
    machine.Leads (stem ++ text) place :=
  ⟨accepted, (leadsInto.follow_names isPlain).trans followed⟩

theorem eq_of_leads (leadsInto : machine.LeadsInto stem root) (isPlain : IsPlain text)
    (leads : machine.Leads (stem ++ text) place) : place = root ++ names text := by
  have followed := leads.followed
  rw [leadsInto.follow_names isPlain] at followed
  rw [follow_eq_ok followed, placeFrom_names isPlain]

theorem has_eq_false (leadsInto : machine.LeadsInto stem root) (isPlain : IsPlain text)
    (isOpen : IsOpen machine.tree (root ++ (names text).dropLast))
    (nothing : machine.tree.item? (root ++ names text) = none) :
    machine.has (stem ++ text) = false := by
  have followed := Disk.follow_names isPlain leadsInto.isFolder isOpen
  rw [nothing, ← leadsInto.follow_names isPlain] at followed
  cases isFound : machine.find (stem ++ text) with
  | error fault => rw [Machine.has, isFound]
  | ok found =>
      have leads := (find_eq_ok isFound).1
      rw [leads.followed] at followed
      cases followed

theorem lastName_eq (leadsInto : machine.LeadsInto stem root) (text : String) :
    Path.lastName (stem ++ text) = Path.lastName text := by
  have isLast := Path.getLast?_names (stem ++ text)
  rw [Path.names_append leadsInto.isBeginning, List.getLast?_append, Path.getLast?_names text,
    Option.some_or] at isLast
  exact (Option.some.inj isLast).symm

/-- A plain path has a destination in the folder around. -/
theorem destinationOf_eq (leadsInto : machine.LeadsInto stem root) (isPlain : IsPlain text)
    (isFolder : machine.tree.item? (root ++ (names text).dropLast) = some .folder) :
    destinationOf machine.tree (startOf machine.here (stem ++ text)) (names (stem ++ text)) =
      .ok (if (machine.tree.item? (root ++ names text)).isSome then .present (root ++ names text)
        else .free (root ++ (names text).dropLast) (Path.lastName text)) := by
  rw [destinationOf, leadsInto.follow_dropLast isPlain,
    follow_dropLast_names isPlain leadsInto.isFolder isFolder, ok_bind, Path.getLast?_names,
    leadsInto.lastName_eq, Option.getD_some,
    destinationIn_entryName isPlain.isEntryName_lastName isFolder, List.append_assoc,
    ← Path.names_eq]

theorem withoutTrailing_eq (leadsInto : machine.LeadsInto stem root) (isPlain : IsPlain text) :
    withoutTrailing (names (stem ++ text)) = names (stem ++ text) := by
  have notEmpty : (Path.lastName (stem ++ text)).isEmpty = false := by
    rw [leadsInto.lastName_eq]
    simpa using isPlain.isEntryName_lastName.notEmpty
  rw [withoutTrailing, Path.names_eq, List.reverse_concat, List.dropWhile_cons, notEmpty]
  simp

end LeadsInto

/-! ## Making folders -/

/-- A machine has become another one by getting a folder at a place, and the folders around it. -/
structure MadeFolders (before : Machine) (place : List String) (after : Machine) : Prop where
  here : after.here = before.here
  entries : ∀ other, after.tree.item? other =
    if other <+: place then some .folder else before.tree.item? other

theorem MadeFolders.of_folder (isFolder : machine.tree.item? place = some .folder) :
    machine.MadeFolders place machine := by
  refine ⟨rfl, fun other => ?_⟩
  split
  next isPrefix =>
    rcases ((isOpen_of_folder isFolder).around isPrefix).none_or_folder with nothing | found
    · obtain ⟨inner, rfl⟩ := isPrefix
      rw [Tree.item?_append_eq_none nothing inner] at isFolder
      cases isFolder
    · exact found
  next => rfl

theorem MadeFolders.put {folder : List String} {name : String}
    (isFolder : machine.tree.item? folder = some .folder)
    (isFree : machine.tree.item? (folder ++ [name]) = none) :
    machine.MadeFolders (folder ++ [name])
      { machine with tree := .put .empty machine.tree (folder ++ [name]) } := by
  have noOld (old : Tree) (isOld : machine.tree.get? (folder ++ [name]) = some old) :
      old.IsLeaf := by
    rw [Option.map_eq_none_iff.mp isFree] at isOld
    cases isOld
  have around := MadeFolders.of_folder isFolder
  refine ⟨rfl, fun other => ?_⟩
  rw [Tree.item?_put Tree.isLeaf_empty isFolder noOld]
  by_cases isWhole : other = folder ++ [name]
  · rw [if_pos isWhole, if_pos (isWhole ▸ List.prefix_refl other)]
    rfl
  · -- Everything else on the way to the new folder has been there before.
    have sameInside : other <+: folder ++ [name] ↔ other <+: folder :=
      List.prefix_concat_iff.trans (or_iff_right isWhole)
    refine (if_neg isWhole).trans ((around.entries other).trans ?_)
    simp only [sameInside]

/-- A folder that is made once the folders around it have been made. -/
theorem MadeFolders.trans {outer : List String} (isPrefix : outer <+: place)
    (first : before.MadeFolders outer machine) (second : machine.MadeFolders place after) :
    before.MadeFolders place after := by
  refine ⟨second.here.trans first.here, fun other => ?_⟩
  rw [second.entries, first.entries]
  split
  · rfl
  · next notInside =>
    rw [if_neg fun isInside => notInside (isInside.trans isPrefix)]

theorem MadeFolders.grows (made : before.MadeFolders place after)
    (isOpen : IsOpen before.tree place) : before.tree.Grows after.tree := by
  intro other entry found
  rw [made.entries]
  split
  next isInside =>
    rcases (isOpen.around isInside).none_or_folder with nothing | isFolder
    · rw [nothing] at found
      cases found
    · rw [isFolder] at found
      exact ⟨.folder, rfl, congrArg Entry.isFolder (Option.some.inj found)⟩
  next => exact ⟨entry, found, rfl⟩

/-- No file comes to be on the way to another place. -/
theorem MadeFolders.isOpen {other : List String} (made : before.MadeFolders place after)
    (isOpen : IsOpen before.tree other) : IsOpen after.tree other := by
  intro around isAround content
  rw [made.entries]
  split
  · exact nofun
  · exact isOpen around isAround content

theorem makeFolderInside_cons {path : String}
    (notMissing : (machine.makeFolder path).1 ≠ .error .missing) (outer : List String) :
    machine.makeFolderInside (path :: outer) =
      makeFolderInside.orKept (machine.makeFolder path) path := by
  rw [makeFolderInside]
  generalize machine.makeFolder path = outcome at notMissing ⊢
  obtain ⟨result, after⟩ := outcome
  cases result with
  | ok done => rfl
  | error fault => cases fault <;> first | exact absurd rfl notMissing | rfl

theorem makeFolderInside_cons_of_missing {path : String} {outer : List String}
    (missing : machine.makeFolder path = machine.refused .missing)
    (made : machine.makeFolderInside outer = (.ok (), after)) :
    machine.makeFolderInside (path :: outer) =
      makeFolderInside.orKept (after.makeFolder path) path := by
  rw [makeFolderInside, missing, made]
  rfl

namespace LeadsInto

theorem makeFolder_eq (leadsInto : machine.LeadsInto stem root) (isPlain : IsPlain text)
    (accepted : checkPath (stem ++ text) = .ok ()) :
    machine.makeFolder (stem ++ text) =
      match destinationOf machine.tree (startOf machine.here (stem ++ text))
        (names (stem ++ text)) with
      | .error fault => machine.refused fault
      | .ok (.present _) => machine.refused .taken
      | .ok (.free folder name) => machine.changed (.put .empty machine.tree (folder ++ [name])) := by
  rcases found : destinationOf machine.tree (startOf machine.here (stem ++ text))
    (names (stem ++ text)) with fault | ⟨place⟩ | ⟨folder, name⟩ <;>
  simp only [makeFolder, accepted, ok_bind, leadsInto.withoutTrailing_eq isPlain, found]

/-- In a folder that is there, a folder is made, or it is there as well. -/
theorem makeFolder_taken_or_made (leadsInto : machine.LeadsInto stem root) (isPlain : IsPlain text)
    (accepted : checkPath (stem ++ text) = .ok ())
    (isFolder : machine.tree.item? (root ++ (names text).dropLast) = some .folder)
    (isOpen : IsOpen machine.tree (root ++ names text)) :
    (machine.makeFolder (stem ++ text) = machine.refused .taken ∧
      machine.hasFolder (stem ++ text) = true ∧ machine.MadeFolders (root ++ names text) machine) ∨
    ∃ after, machine.makeFolder (stem ++ text) = (.ok (), after) ∧
      machine.MadeFolders (root ++ names text) after := by
  have isPlace : root ++ names text = root ++ (names text).dropLast ++ [Path.lastName text] := by
    rw [List.append_assoc, ← Path.names_eq]
  rw [leadsInto.makeFolder_eq isPlain accepted, leadsInto.destinationOf_eq isPlain isFolder]
  rcases isOpen.none_or_folder with isFree | isThere
  · right
    rw [isFree]
    rw [isPlace] at isFree
    exact ⟨_, rfl, isPlace ▸ .put isFolder isFree⟩
  · left
    have followed := Disk.follow_names isPlain leadsInto.isFolder (isOpen_of_folder isFolder)
    rw [isThere] at followed
    rw [isThere]
    exact ⟨rfl, (leadsInto.leads isPlain accepted followed).hasFolder isThere, .of_folder isThere⟩

theorem exists_orKept (leadsInto : machine.LeadsInto stem root) (isPlain : IsPlain text)
    (accepted : checkPath (stem ++ text) = .ok ())
    (isFolder : machine.tree.item? (root ++ (names text).dropLast) = some .folder)
    (isOpen : IsOpen machine.tree (root ++ names text)) :
    (machine.makeFolder (stem ++ text)).1 ≠ .error .missing ∧
    ∃ after, makeFolderInside.orKept (machine.makeFolder (stem ++ text)) (stem ++ text) =
        (.ok (), after) ∧ machine.MadeFolders (root ++ names text) after := by
  rcases leadsInto.makeFolder_taken_or_made isPlain accepted isFolder isOpen with
    ⟨isTaken, isKept, made⟩ | ⟨after, isMade, made⟩
  · rw [isTaken]
    refine ⟨by simp [refused], machine, ?_, made⟩
    simp only [refused, makeFolderInside.orKept, isKept, if_true]
  · rw [isMade]
    exact ⟨by simp, after, rfl, made⟩

theorem makeFolder_of_nothing (leadsInto : machine.LeadsInto stem root) {outer name : String}
    (isPlain : IsPlain outer) (isEntryName : IsEntryName name)
    (accepted : checkPath (stem ++ (outer ++ "/" ++ name)) = .ok ())
    (isOpen : IsOpen machine.tree (root ++ names outer))
    (nothing : machine.tree.item? (root ++ names outer) = none) :
    machine.makeFolder (stem ++ (outer ++ "/" ++ name)) = machine.refused .missing := by
  have followed := Disk.follow_names isPlain leadsInto.isFolder isOpen.dropLast
  rw [nothing] at followed
  rw [leadsInto.makeFolder_eq (.inside isPlain isEntryName) accepted, destinationOf,
    leadsInto.follow_dropLast (.inside isPlain isEntryName),
    Path.names_append_name isEntryName.noSlash, List.dropLast_concat, followed]
  rfl

/-- The folders of a plain path are made from the first one on that is missing. -/
theorem exists_makeFolderInside (leadsInto : machine.LeadsInto stem root) (isPlain : IsPlain text)
    {count : Nat} (enough : (names text).length ≤ count)
    (accepted : checkPath (stem ++ text) = .ok ())
    (isOpen : IsOpen machine.tree (root ++ names text)) :
    ∃ after, machine.makeFolderInside (Path.ancestorsUpTo count (stem ++ text)) = (.ok (), after) ∧
      machine.MadeFolders (root ++ names text) after := by
  induction isPlain generalizing count with
  | @name name isEntryName =>
      have isPlain := IsPlain.name isEntryName
      rw [Path.names_of_noSlash isEntryName.noSlash] at enough
      have notEmpty : stem ++ name ≠ "" := by simp [isPlain.ne_empty]
      obtain ⟨outer, areAncestors⟩ := Path.exists_ancestorsUpTo_eq_cons notEmpty enough
      have isFolder : machine.tree.item? (root ++ (names name).dropLast) = some .folder := by
        rw [Path.names_of_noSlash isEntryName.noSlash, List.dropLast_singleton, List.append_nil]
        exact leadsInto.isFolder
      obtain ⟨notMissing, kept⟩ := leadsInto.exists_orKept isPlain accepted isFolder isOpen
      rw [areAncestors, makeFolderInside_cons notMissing]
      exact kept
  | @inside outer name isPlainOuter isEntryName ih =>
      have isPlain := IsPlain.inside isPlainOuter isEntryName
      have areNames := Path.names_append_name isEntryName.noSlash outer
      have isPrefix : root ++ names outer <+: root ++ names (outer ++ "/" ++ name) := by
        rw [areNames, ← List.append_assoc]
        exact List.prefix_append _ _
      have isOpenOuter := isOpen.around isPrefix
      have acceptedOuter := checkPath_outer isPlainOuter accepted
      have isAround : root ++ (names (outer ++ "/" ++ name)).dropLast = root ++ names outer := by
        rw [areNames, List.dropLast_concat]
      rw [areNames, List.length_append, List.length_singleton] at enough
      obtain ⟨count, rfl⟩ : ∃ fewer, count = fewer + 1 := ⟨count - 1, by omega⟩
      rw [isPlainOuter.ancestorsUpTo_inside isEntryName]
      rcases isOpenOuter.none_or_folder with nothing | isFolder
      · -- The folders around are made first, and then there is one for this folder to be made in.
        obtain ⟨middle, madeOuter, made⟩ := ih (Nat.le_of_succ_le_succ enough) acceptedOuter isOpenOuter
        have missing := leadsInto.makeFolder_of_nothing isPlainOuter isEntryName accepted
          isOpenOuter nothing
        have leadsIntoLater := leadsInto.of_grows made.here (made.grows isOpenOuter)
        have isFolderLater : middle.tree.item? (root ++ names outer) = some .folder := by
          rw [made.entries, if_pos (List.prefix_refl _)]
        have isOpenLater := made.isOpen isOpen
        obtain ⟨-, after, kept, madeLater⟩ := leadsIntoLater.exists_orKept isPlain accepted
          (isAround ▸ isFolderLater) isOpenLater
        rw [makeFolderInside_cons_of_missing missing madeOuter]
        exact ⟨after, kept, made.trans isPrefix madeLater⟩
      · obtain ⟨notMissing, kept⟩ := leadsInto.exists_orKept isPlain accepted
          (isAround ▸ isFolder) isOpen
        rw [makeFolderInside_cons notMissing]
        exact kept

theorem exists_makeFolders (leadsInto : machine.LeadsInto stem root) (isPlain : IsPlain text)
    (accepted : checkPath (stem ++ text) = .ok ())
    (isOpen : IsOpen machine.tree (root ++ names text)) :
    ∃ after, machine.makeFolders (stem ++ text) = (.ok (), after) ∧
      machine.MadeFolders (root ++ names text) after := by
  have enough : (names text).length ≤ (stem ++ text).length + 1 := by
    have isShorter := isPlain.length_names_le
    rw [String.length_append]
    omega
  exact leadsInto.exists_makeFolderInside isPlain enough accepted isOpen

/-! ## Writing a file -/

theorem placeAt_eq (leadsInto : machine.LeadsInto stem root) (isPlain : IsPlain text)
    (isFolder : machine.tree.item? (root ++ (names text).dropLast) = some .folder) :
    placeAt machine.here (stem ++ text) = root ++ names text := by
  have isOrdinary : IsOrdinary (Path.lastName (stem ++ text)) := by
    rw [leadsInto.lastName_eq]
    exact isPlain.isEntryName_lastName.toIsOrdinary
  have followed := leadsInto.follow_dropLast isPlain
  rw [follow_dropLast_names isPlain leadsInto.isFolder isFolder] at followed
  rw [placeAt_eq_of_follow isOrdinary followed, leadsInto.lastName_eq, List.append_assoc,
    ← Path.names_eq]

theorem writeDestination_eq (leadsInto : machine.LeadsInto stem root) (isPlain : IsPlain text)
    (accepted : checkPath (stem ++ text) = .ok ())
    (isFolder : machine.tree.item? (root ++ (names text).dropLast) = some .folder) :
    machine.writeDestination (stem ++ text) =
      .ok (if (machine.tree.item? (root ++ names text)).isSome then .present (root ++ names text)
        else .free (root ++ (names text).dropLast) (Path.lastName text)) := by
  have notEmpty : (names (stem ++ text)).getLast? ≠ some "" := by
    rw [Path.getLast?_names, leadsInto.lastName_eq]
    exact fun isEmpty => isPlain.isEntryName_lastName.notEmpty (Option.some.inj isEmpty)
  rw [writeDestination, accepted, ok_bind, if_neg notEmpty,
    leadsInto.destinationOf_eq isPlain isFolder]

/-- In a folder that is there, a file is written unless a folder has its name. -/
theorem exists_writeText (leadsInto : machine.LeadsInto stem root) (isPlain : IsPlain text)
    (accepted : checkPath (stem ++ text) = .ok ())
    (isFolder : machine.tree.item? (root ++ (names text).dropLast) = some .folder)
    (notFolder : machine.tree.item? (root ++ names text) ≠ some .folder) (content : String) :
    ∃ after, machine.writeText (stem ++ text) content = (.ok (), after) ∧
      after.here = machine.here ∧ machine.tree.Grows after.tree ∧
      ∀ other, after.tree.item? other =
        if other = root ++ names text then some (.file content) else machine.tree.item? other := by
  obtain ⟨after, written⟩ : ∃ after, machine.writeText (stem ++ text) content = (.ok (), after) := by
    rw [writeText_eq, leadsInto.writeDestination_eq isPlain accepted isFolder]
    cases found : machine.tree.item? (root ++ names text) with
    | none => exact ⟨_, rfl⟩
    | some entry =>
        cases entry with
        | folder => exact absurd found notFolder
        | file old =>
            obtain ⟨tree, isFound, isEntry⟩ := Option.map_eq_some_iff.mp found
            cases tree with
            | folder entries => cases isEntry
            | file text =>
                simp only [Option.isSome_some, if_true, isFound]
                exact ⟨_, rfl⟩
  have wrote := writeText_eq_ok written
  refine ⟨after, written, wrote.here, wrote.grows, ?_⟩
  rw [← leadsInto.placeAt_eq isPlain isFolder]
  exact wrote.entries

end LeadsInto

end Machine

end Polyview.Disk
