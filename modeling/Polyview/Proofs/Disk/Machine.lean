import Polyview.Disk.Machine
import Polyview.Proofs.Disk.Place

/-!
# What requests do to a machine

Making folders adds folders where nothing was and changes nothing else, whether it succeeds or not.
Writing a file changes what is at the place that its path spells, and nothing else. Requests that
have been carried out one after the other therefore leave at each place what was written there last,
and leave all other files as they were.
-/

namespace Polyview.Disk.Machine

/-! ## Paths that lead somewhere -/

def text? (machine : Machine) (place : List String) : Option String := machine.tree.text? place

/-- A path can be followed to a place. -/
structure Leads (machine : Machine) (path : String) (place : List String) : Prop where
  accepted : checkPath path = .ok ()
  followed : follow machine.tree (startOf machine.here path) (Path.names path) = .ok place

variable {before middle after : Machine}

theorem Leads.eq_placeAt {path : String} {place : List String} (leads : before.Leads path place) :
    place = placeAt before.here path :=
  follow_eq_ok leads.followed

/-- A path goes on leading to its place while a tree grows. -/
theorem Leads.of_grows {path : String} {place : List String} (leads : before.Leads path place)
    (here : after.here = before.here) (grows : before.tree.Grows after.tree) :
    after.Leads path place := by
  refine ⟨leads.accepted, ?_⟩
  have notMissing : follow before.tree (startOf before.here path) (Path.names path) ≠
      .error .missing := by
    rw [leads.followed]
    exact nofun
  rw [here, grows.follow_eq notMissing, leads.followed]

theorem Leads.find_eq {path : String} {place : List String} (leads : before.Leads path place)
    {found : Tree} (there : before.tree.get? place = some found) :
    before.find path = .ok (place, found) := by
  simp only [find, Disk.find, leads.accepted, leads.followed, ok_bind, there, pure_eq_ok]

theorem find_eq_ok {path : String} {place : List String} {found : Tree}
    (isFound : before.find path = .ok (place, found)) :
    before.Leads path place ∧ before.tree.get? place = some found := by
  simp only [find, Disk.find, bind_eq_ok] at isFound
  obtain ⟨_, accepted, other, followed, isFound⟩ := isFound
  cases there : before.tree.get? other with
  | none =>
      rw [there] at isFound
      cases isFound
  | some tree =>
      rw [there] at isFound
      obtain ⟨rfl, rfl⟩ := Prod.mk.inj (Except.ok.inj isFound)
      exact ⟨⟨accepted, followed⟩, there⟩

theorem Leads.has {path : String} {place : List String} (leads : before.Leads path place)
    (there : (before.tree.item? place).isSome) : before.has path = true := by
  rw [Tree.item?, Option.isSome_map] at there
  obtain ⟨found, there⟩ := Option.isSome_iff_exists.mp there
  rw [Machine.has, leads.find_eq there]

theorem Leads.find_eq_file {path : String} {place : List String}
    (leads : before.Leads path place) {content : String}
    (isFile : before.text? place = some content) :
    before.find path = .ok (place, .file content) := by
  have there := Tree.text?_eq_some.mp isFile
  rw [Tree.item?, Option.map_eq_some_iff] at there
  obtain ⟨found, there, sameEntry⟩ := there
  cases found with
  | folder entries => cases sameEntry
  | file text =>
      obtain rfl := Entry.file.inj sameEntry
      exact leads.find_eq there

/-- A file that a path leads to is read from it. -/
theorem Leads.readText_eq {path : String} {place : List String} (leads : before.Leads path place)
    {content : String} (isFile : before.text? place = some content) :
    before.readText path = .ok content := by
  rw [readText, leads.find_eq_file isFile]
  rfl

/-! ## Making folders -/

/-- A machine has become another one by getting folders where nothing was. -/
structure AddsFolders (before after : Machine) : Prop where
  here : after.here = before.here
  entries : ∀ place, after.tree.item? place = before.tree.item? place ∨
    before.tree.item? place = none ∧ after.tree.item? place = some .folder

namespace AddsFolders

theorem refl (machine : Machine) : machine.AddsFolders machine := ⟨rfl, fun _ => .inl rfl⟩

theorem trans (first : before.AddsFolders middle) (second : middle.AddsFolders after) :
    before.AddsFolders after := by
  refine ⟨second.here.trans first.here, fun place => ?_⟩
  rcases second.entries place with sameLater | ⟨nothingLater, isFolder⟩
  · rw [sameLater]
    exact first.entries place
  · rcases first.entries place with same | ⟨-, isFolderFirst⟩
    · exact .inr ⟨same.symm.trans nothingLater, isFolder⟩
    · rw [nothingLater] at isFolderFirst
      cases isFolderFirst

theorem grows (adds : before.AddsFolders after) : before.tree.Grows after.tree := by
  intro place entry found
  rcases adds.entries place with same | ⟨nothing, -⟩
  · exact ⟨entry, same.trans found, rfl⟩
  · rw [nothing] at found
    cases found

theorem text?_eq (adds : before.AddsFolders after) (place : List String) :
    after.text? place = before.text? place := by
  rw [text?, text?, Tree.text?, Tree.text?]
  rcases adds.entries place with same | ⟨nothing, isFolder⟩
  · rw [same]
  · rw [nothing, isFolder]

end AddsFolders

theorem makeFolder_addsFolders (machine : Machine) (path : String) :
    machine.AddsFolders (machine.makeFolder path).2 := by
  rw [makeFolder]
  split
  next => exact .refl machine
  next => exact .refl machine
  next folder name found =>
    rw [bind_eq_ok] at found
    obtain ⟨-, -, found⟩ := found
    obtain ⟨_, -, isFolder, destination⟩ := isDestination_of_destinationOf found
    obtain ⟨rfl, -, -, -, isFree⟩ := destination.of_free
    have noOld (old : Tree) (isOld : machine.tree.get? (folder ++ [name]) = some old) :
        old.IsLeaf := by
      rw [Option.map_eq_none_iff.mp isFree] at isOld
      cases isOld
    refine ⟨rfl, fun place => ?_⟩
    have entries := Tree.item?_put Tree.isLeaf_empty isFolder noOld place
    by_cases same : place = folder ++ [name]
    · rw [if_pos same] at entries
      exact .inr ⟨same ▸ isFree, entries⟩
    · rw [if_neg same] at entries
      exact .inl entries

theorem orKept_snd (outcome : Outcome) (path : String) :
    (makeFolderInside.orKept outcome path).2 = outcome.2 := by
  obtain ⟨result, machine⟩ := outcome
  cases result with
  | ok done => rfl
  | error fault =>
      simp only [makeFolderInside.orKept, refused]
      split <;> rfl

theorem makeFolderInside_addsFolders (machine : Machine) (paths : List String) :
    machine.AddsFolders (machine.makeFolderInside paths).2 := by
  induction paths with
  | nil => exact .refl machine
  | cons path outer ih =>
      have single := machine.makeFolder_addsFolders path
      rw [makeFolderInside]
      split
      next made => rwa [made] at single
      next missing =>
        split
        next around made =>
          rw [made] at ih
          rw [orKept_snd]
          exact ih.trans (around.makeFolder_addsFolders path)
        next => exact ih
      next => rwa [orKept_snd]

/-- Whether folders can all be made or not, nothing else changes. -/
theorem makeFolders_addsFolders (machine : Machine) (path : String) :
    machine.AddsFolders (machine.makeFolders path).2 :=
  machine.makeFolderInside_addsFolders (Path.ancestors path)

/-! ## Writing a file -/

/-- A machine has become another one by writing a file. -/
structure WroteText (before : Machine) (path content : String) (after : Machine) : Prop where
  accepted : checkPath path = .ok ()
  isOrdinary : IsOrdinary (Path.lastName path)
  fits : ¬ longestName < (Path.lastName path).utf8ByteSize
  followed : ∃ folder,
    follow before.tree (startOf before.here path) (Path.names path).dropLast = .ok folder
  here : after.here = before.here
  notFolder : before.tree.item? (placeAt before.here path) ≠ some .folder
  entries : ∀ place, after.tree.item? place =
    if place = placeAt before.here path then some (.file content) else before.tree.item? place

/-- Writing a file at the last name of a path, where there is no folder of that name. -/
theorem wroteText_put {path content : String} {folder : List String}
    (accepted : checkPath path = .ok ())
    (followed : follow before.tree (startOf before.here path) (Path.names path).dropLast =
      .ok folder)
    (isFolder : before.tree.item? folder = some .folder)
    (isOrdinary : IsOrdinary (Path.lastName path))
    (fits : ¬ longestName < (Path.lastName path).utf8ByteSize)
    (notFolder : before.tree.item? (folder ++ [Path.lastName path]) ≠ some .folder) :
    before.WroteText path content
      { before with
        tree := .put (.file content) before.tree (folder ++ [Path.lastName path]) } := by
  have isPlace := placeAt_eq_of_follow isOrdinary followed
  refine ⟨accepted, isOrdinary, fits, ⟨folder, followed⟩, rfl, isPlace ▸ notFolder, ?_⟩
  intro place
  rw [isPlace]
  refine Tree.item?_put (Tree.isLeaf_file content) isFolder (fun old isOld => ?_) place
  cases old with
  | file text => exact Tree.isLeaf_file text
  | folder entries =>
      rw [Tree.item?, isOld] at notFolder
      exact absurd rfl notFolder

/-- What a path leads to when a file is to be written there. -/
def writeDestination (machine : Machine) (path : String) : Except Fault Destination := do
  checkPath path
  if (Path.names path).getLast? = some "" then
    let place ← follow machine.tree (startOf machine.here path)
      (withoutTrailing (Path.names path)).dropLast
    throw (match machine.tree.get? place with
      | some (.file _) => .notFolder
      | _ => .isFolder)
  else
    destinationOf machine.tree (startOf machine.here path) (Path.names path)

theorem writeText_eq (machine : Machine) (path content : String) :
    machine.writeText path content =
      match machine.writeDestination path with
      | .error fault => machine.refused fault
      | .ok (.free folder name) =>
          machine.changed (.put (.file content) machine.tree (folder ++ [name]))
      | .ok (.present place) =>
          match machine.tree.get? place with
          | some (.file _) => machine.changed (.put (.file content) machine.tree place)
          | _ => machine.refused .isFolder :=
  rfl

/-- A path with a destination is accepted, and its last name is one in a folder. -/
theorem isDestination_of_writeDestination {machine : Machine} {path : String}
    {destination : Destination} (found : machine.writeDestination path = .ok destination) :
    checkPath path = .ok () ∧ ∃ folder,
      follow machine.tree (startOf machine.here path) (Path.names path).dropLast = .ok folder ∧
      machine.tree.item? folder = some .folder ∧
      IsDestination machine.tree folder (Path.lastName path) destination := by
  rw [writeDestination, bind_eq_ok] at found
  obtain ⟨_, accepted, found⟩ := found
  refine ⟨accepted, ?_⟩
  split at found
  next =>
    rw [bind_eq_ok] at found
    obtain ⟨_, -, failed⟩ := found
    cases failed
  next =>
    have destination := isDestination_of_destinationOf found
    rwa [Path.getLast?_names, Option.getD_some] at destination

theorem writeText_eq_ok {path content : String}
    (written : before.writeText path content = (.ok (), after)) :
    before.WroteText path content after := by
  rw [writeText_eq] at written
  split at written
  next => cases written
  next folder name found =>
    obtain ⟨accepted, _, followed, isFolder, destination⟩ := isDestination_of_writeDestination found
    obtain ⟨rfl, rfl, isOrdinary, fits, isFree⟩ := destination.of_free
    obtain rfl := (Prod.mk.inj written).2
    exact wroteText_put accepted followed isFolder isOrdinary fits (by simp [isFree])
  next place found =>
    obtain ⟨accepted, _, followed, isFolder, destination⟩ := isDestination_of_writeDestination found
    split at written
    next old isOld =>
      have isFile : before.tree.item? place = some (.file old) := by
        rw [Tree.item?, isOld]
        rfl
      obtain ⟨rfl, isOrdinary, fits⟩ := destination.of_file isFile
      obtain rfl := (Prod.mk.inj written).2
      exact wroteText_put accepted followed isFolder isOrdinary fits (by simp [isFile])
    next => cases written

/-- A file that cannot be written leaves the machine as it was. -/
theorem writeText_eq_error {path content : String} {fault : Fault}
    (failed : before.writeText path content = (.error fault, after)) : after = before := by
  rw [writeText_eq] at failed
  split at failed
  next => exact (Prod.mk.inj failed).2.symm
  next => cases failed
  next =>
    split at failed
    next => cases failed
    next => exact (Prod.mk.inj failed).2.symm

/-! ## Several files -/

/-- What the last of several writes, each of which has a path and a content, leaves at a place. -/
def lastWritten (here place : List String) : List (String × String) → Option String
  | [] => none
  | (path, content) :: later =>
      (lastWritten here place later).or (if placeAt here path = place then some content else none)

theorem lastWritten_append (here place : List String) (first second : List (String × String)) :
    lastWritten here place (first ++ second) =
      (lastWritten here place second).or (lastWritten here place first) := by
  induction first with
  | nil => exact Option.or_none.symm
  | cons write first ih => rw [List.cons_append, lastWritten, lastWritten, ih, Option.or_assoc]

theorem exists_mem_of_lastWritten {here place : List String} {content : String}
    {writes : List (String × String)} (isLast : lastWritten here place writes = some content) :
    ∃ write ∈ writes, placeAt here write.1 = place ∧ write.2 = content := by
  induction writes with
  | nil => cases isLast
  | cons write writes ih =>
      rw [lastWritten, Option.or_eq_some_iff] at isLast
      rcases isLast with later | ⟨-, isFirst⟩
      · obtain ⟨found, member, samePlace, sameContent⟩ := ih later
        exact ⟨found, List.mem_cons_of_mem write member, samePlace, sameContent⟩
      · split at isFirst
        next samePlace => exact ⟨write, List.mem_cons_self, samePlace, Option.some.inj isFirst⟩
        next => cases isFirst

theorem lastWritten_eq_none {here place : List String} {writes : List (String × String)}
    (elsewhere : ∀ write ∈ writes, placeAt here write.1 ≠ place) :
    lastWritten here place writes = none := by
  cases isLast : lastWritten here place writes with
  | none => rfl
  | some content =>
      obtain ⟨write, member, samePlace, -⟩ := exists_mem_of_lastWritten isLast
      exact absurd samePlace (elsewhere write member)

theorem isSome_lastWritten_of_mem {here : List String} {writes : List (String × String)}
    {write : String × String} (member : write ∈ writes) :
    (lastWritten here (placeAt here write.1) writes).isSome := by
  induction writes with
  | nil => cases member
  | cons first writes ih =>
      rw [lastWritten, Option.isSome_or, Bool.or_eq_true]
      rcases List.mem_cons.mp member with rfl | later
      · right
        rw [if_pos rfl]
        rfl
      · exact .inl (ih later)

/-- Writes to one place have one content. -/
def Agree (here : List String) (writes : List (String × String)) : Prop :=
  ∀ first ∈ writes, ∀ second ∈ writes,
    placeAt here first.1 = placeAt here second.1 → first.2 = second.2

theorem lastWritten_of_mem {here : List String} {writes : List (String × String)}
    (agree : Agree here writes)
    {write : String × String} (member : write ∈ writes) :
    lastWritten here (placeAt here write.1) writes = some write.2 := by
  obtain ⟨content, isLast⟩ := Option.isSome_iff_exists.mp (isSome_lastWritten_of_mem member)
  obtain ⟨last, isMember, samePlace, rfl⟩ := exists_mem_of_lastWritten isLast
  rw [isLast, agree last isMember write member samePlace]

/-- The order of writes that agree does not matter, nor how often they are made. -/
theorem lastWritten_eq_of_mem_iff {here : List String} {writes others : List (String × String)}
    (agree : Agree here writes) (sameWrites : ∀ write, write ∈ others ↔ write ∈ writes)
    (place : List String) :
    lastWritten here place others = lastWritten here place writes := by
  have othersAgree : Agree here others := fun first inFirst second inSecond =>
    agree first ((sameWrites first).mp inFirst) second ((sameWrites second).mp inSecond)
  by_cases elsewhere : ∀ write ∈ writes, placeAt here write.1 ≠ place
  · rw [lastWritten_eq_none elsewhere]
    exact lastWritten_eq_none fun write member => elsewhere write ((sameWrites write).mp member)
  · obtain ⟨write, member, samePlace⟩ : ∃ write ∈ writes, placeAt here write.1 = place := by
      simpa using elsewhere
    rw [← samePlace, lastWritten_of_mem agree member]
    exact lastWritten_of_mem othersAgree ((sameWrites write).mpr member)

/-- A machine has become another one by writing files one after the other, and by making folders in
between. -/
structure WroteAll (before : Machine) (writes : List (String × String)) (after : Machine) :
    Prop where
  here : after.here = before.here
  grows : before.tree.Grows after.tree
  leads : ∀ write ∈ writes, after.Leads write.1 (placeAt before.here write.1)
  isOrdinary : ∀ write ∈ writes, IsOrdinary (Path.lastName write.1)
  texts : ∀ place,
    after.text? place = (lastWritten before.here place writes).or (before.text? place)

namespace WroteAll

theorem of_addsFolders (adds : before.AddsFolders after) : before.WroteAll [] after :=
  ⟨adds.here, adds.grows, nofun, nofun, adds.text?_eq⟩

theorem trans {first second : List (String × String)} (earlier : before.WroteAll first middle)
    (later : middle.WroteAll second after) : before.WroteAll (first ++ second) after where
  here := later.here.trans earlier.here
  grows := earlier.grows.trans later.grows
  leads write member := by
    rcases List.mem_append.mp member with inFirst | inSecond
    · exact (earlier.leads write inFirst).of_grows later.here later.grows
    · rw [← earlier.here]
      exact later.leads write inSecond
  isOrdinary write member := by
    rcases List.mem_append.mp member with inFirst | inSecond
    · exact earlier.isOrdinary write inFirst
    · exact later.isOrdinary write inSecond
  texts place := by
    rw [later.texts, earlier.texts, earlier.here, lastWritten_append, Option.or_assoc]

theorem exists_leads {writes : List (String × String)} (wrote : before.WroteAll writes after)
    (agree : Agree before.here writes) {write : String × String} (member : write ∈ writes) :
    ∃ place, after.Leads write.1 place ∧ after.text? place = some write.2 := by
  refine ⟨_, wrote.leads write member, ?_⟩
  rw [wrote.texts, lastWritten_of_mem agree member, Option.some_or]

theorem readText_eq {writes : List (String × String)} (wrote : before.WroteAll writes after)
    (agree : Agree before.here writes) {write : String × String} (member : write ∈ writes) :
    after.readText write.1 = .ok write.2 := by
  obtain ⟨place, leads, isText⟩ := wrote.exists_leads agree member
  exact leads.readText_eq isText

theorem text?_eq_of_elsewhere {writes : List (String × String)}
    (wrote : before.WroteAll writes after) {place : List String}
    (elsewhere : ∀ write ∈ writes, placeAt before.here write.1 ≠ place) :
    after.text? place = before.text? place := by
  rw [wrote.texts, lastWritten_eq_none elsewhere, Option.none_or]

end WroteAll

theorem WroteText.grows {path content : String} (wrote : before.WroteText path content after) :
    before.tree.Grows after.tree := by
  intro place entry found
  rw [wrote.entries]
  split
  next same =>
    cases entry with
    | file text => exact ⟨.file content, rfl, rfl⟩
    | folder => exact absurd (same ▸ found) wrote.notFolder
  next => exact ⟨entry, found, rfl⟩

theorem WroteText.leads {path content : String} (wrote : before.WroteText path content after) :
    after.Leads path (placeAt before.here path) := by
  obtain ⟨folder, followed⟩ := wrote.followed
  have isPlace := placeAt_eq_of_follow wrote.isOrdinary followed
  have isThere : (after.tree.item? (folder ++ [Path.lastName path])).isSome := by
    rw [wrote.entries, if_pos isPlace.symm]
    rfl
  have isFolder := Tree.item?_eq_folder_of_append isThere
  have notMissing : follow before.tree (startOf before.here path) (Path.names path).dropLast ≠
      .error .missing := by
    rw [followed]
    exact nofun
  refine ⟨wrote.accepted, ?_⟩
  rw [Path.names_eq path, follow_append, wrote.here, wrote.grows.follow_eq notMissing, followed,
    ok_bind, follow_cons, enter_ordinary isFolder wrote.isOrdinary wrote.fits isThere, isPlace]
  rfl

theorem WroteText.wroteAll {path content : String}
    (wrote : before.WroteText path content after) : before.WroteAll [(path, content)] after where
  here := wrote.here
  grows := wrote.grows
  leads write member := by
    obtain rfl := List.mem_singleton.mp member
    exact wrote.leads
  isOrdinary write member := by
    obtain rfl := List.mem_singleton.mp member
    exact wrote.isOrdinary
  texts place := by
    rw [text?, Tree.text?, wrote.entries, lastWritten, lastWritten, Option.none_or]
    by_cases same : place = placeAt before.here path
    · rw [if_pos same, if_pos same.symm, Option.some_or]
    · rw [if_neg same, if_neg (Ne.symm same), Option.none_or]
      rfl

end Polyview.Disk.Machine
