import Polyview.Proofs.Disk.Machine

/-!
# Paths from inside a folder

A path that leads somewhere leads through a folder at each of its slashes. Seen from such a folder,
the rest of the path leads to the same place.
-/

namespace Polyview.Disk

theorem checkPath_eq_ok {path : String} :
    checkPath path = .ok () ↔
      '\x00' ∉ path.toList ∧ path ≠ "" ∧ path.utf8ByteSize ≤ longestPath := by
  unfold checkPath
  split
  next hasNul => simp at hasNul; simp [hasNul]
  next noNul =>
    split
    next isEmpty => simp at isEmpty; simp [isEmpty]
    next notEmpty =>
      simp at noNul notEmpty
      simp [noNul, notEmpty]

theorem checkPath_of_append {path : String} (notEmpty : path ≠ "") {more : String}
    (accepted : checkPath (path ++ more) = .ok ()) : checkPath path = .ok () := by
  rw [checkPath_eq_ok] at accepted ⊢
  obtain ⟨noNul, -, fits⟩ := accepted
  rw [String.toList_append, List.mem_append, not_or] at noNul
  rw [String.utf8ByteSize_append] at fits
  exact ⟨noNul.1, notEmpty, by omega⟩

theorem checkPath_of_append_right {path more : String} (notEmpty : more ≠ "")
    (accepted : checkPath (path ++ more) = .ok ()) : checkPath more = .ok () := by
  rw [checkPath_eq_ok] at accepted ⊢
  obtain ⟨noNul, -, fits⟩ := accepted
  rw [String.toList_append, List.mem_append, not_or] at noNul
  rw [String.utf8ByteSize_append] at fits
  exact ⟨noNul.2, notEmpty, by omega⟩

theorem checkPath_append {path more : String} (noNul : '\x00' ∉ path.toList)
    (noNulInMore : '\x00' ∉ more.toList) (notEmpty : more ≠ "")
    (fits : (path ++ more).utf8ByteSize ≤ longestPath) : checkPath (path ++ more) = .ok () := by
  refine checkPath_eq_ok.mpr ⟨?_, by simp [notEmpty], fits⟩
  rw [String.toList_append, List.mem_append]
  exact not_or.mpr ⟨noNul, noNulInMore⟩

theorem startOf_append_of_relative {inner : String} (isRelative : Path.isAbsolute inner = false)
    (here : List String) (outer : String) : startOf here (outer ++ inner) = startOf here outer := by
  by_cases isEmpty : outer = ""
  · subst isEmpty
    rw [String.empty_append, startOf, startOf, isRelative]
    rfl
  · rw [startOf, startOf, Path.isAbsolute_append isEmpty]

theorem startOf_of_relative {path : String} (isRelative : Path.isAbsolute path = false)
    (here : List String) : startOf here path = here := by
  rw [startOf, isRelative]
  rfl

theorem item?_eq_folder_of_enter {tree : Tree} {place next : List String} {name : String}
    (entered : enter tree place name = .ok next) : tree.item? place = some .folder := by
  unfold enter at entered
  split at entered
  next => cases entered
  next => cases entered
  next isFolder => exact isFolder

/-- What leads on to further names is a folder. -/
theorem follow_append_eq_ok {tree : Tree} {start found first second : List String}
    (someNames : second ≠ []) (followed : follow tree start (first ++ second) = .ok found) :
    ∃ work, follow tree start first = .ok work ∧ tree.item? work = some .folder ∧
      follow tree work second = .ok found := by
  rw [follow_append, bind_eq_ok] at followed
  obtain ⟨work, followedFirst, followedSecond⟩ := followed
  refine ⟨work, followedFirst, ?_, followedSecond⟩
  obtain ⟨name, rest, rfl⟩ := List.exists_cons_of_ne_nil someNames
  rw [follow_cons, bind_eq_ok] at followedSecond
  obtain ⟨_, entered, -⟩ := followedSecond
  exact item?_eq_folder_of_enter entered

namespace Machine

variable {machine : Machine} {place : List String}

/-- A machine with another current folder. -/
def inside (machine : Machine) (work : List String) : Machine := { machine with here := work }

theorem inside_leads {path : String} {work : List String} (accepted : checkPath path = .ok ())
    (isRelative : Path.isAbsolute path = false)
    (followed : follow machine.tree work (Path.names path) = .ok place) :
    (machine.inside work).Leads path place := by
  refine ⟨accepted, ?_⟩
  rw [startOf_of_relative isRelative]
  exact followed

/-- The rest of a path behind a slash, seen from the folder that the path leads through there. -/
theorem Leads.parted {first second : String}
    (leads : machine.Leads (first ++ "/" ++ second) place) (notEmpty : first ≠ "")
    (someRest : second ≠ "") (isRelative : Path.isAbsolute second = false) :
    ∃ work, machine.Leads first work ∧ machine.tree.item? work = some .folder ∧
      (machine.inside work).Leads second place := by
  obtain ⟨accepted, followed⟩ := leads
  have start : startOf machine.here (first ++ "/" ++ second) = startOf machine.here first := by
    rw [String.append_assoc, startOf, startOf, Path.isAbsolute_append notEmpty]
  rw [start, Path.names_append_slash] at followed
  obtain ⟨work, followedFirst, isFolder, followedSecond⟩ :=
    follow_append_eq_ok (Path.names_ne_nil second) followed
  have acceptedSecond := checkPath_of_append_right someRest accepted
  rw [String.append_assoc] at accepted
  exact ⟨work, ⟨checkPath_of_append notEmpty accepted, followedFirst⟩, isFolder,
    inside_leads acceptedSecond isRelative followedSecond⟩

/-- A path below another one, seen from the folder of that one. -/
theorem Leads.below {outer inner : String} (leads : machine.Leads (Path.join outer inner) place)
    (notEmpty : inner ≠ "") (isRelative : Path.isAbsolute inner = false) :
    ∃ work, machine.Leads (Path.join outer ".") work ∧ machine.tree.item? work = some .folder ∧
      (machine.inside work).Leads inner place := by
  obtain ⟨accepted, followed⟩ := leads
  have isBeginning := Path.isBeginning_beginning outer
  have pointIsRelative : Path.isAbsolute "." = false := by decide
  rw [Path.join_of_relative isRelative] at accepted followed
  rw [startOf_append_of_relative isRelative, Path.names_append isBeginning] at followed
  obtain ⟨work, followedFirst, isFolder, followedSecond⟩ :=
    follow_append_eq_ok (Path.names_ne_nil inner) followed
  have acceptedInner := checkPath_of_append_right notEmpty accepted
  obtain ⟨noNul, -, fits⟩ := checkPath_eq_ok.mp accepted
  rw [String.toList_append, List.mem_append, not_or] at noNul
  refine ⟨work, ⟨?_, ?_⟩, isFolder, inside_leads acceptedInner isRelative followedSecond⟩
  · have notShorter : ".".utf8ByteSize ≤ inner.utf8ByteSize := by
      have size : ".".utf8ByteSize = 1 := by decide
      have positive : inner.utf8ByteSize ≠ 0 := by simpa using notEmpty
      omega
    rw [Path.join_of_relative pointIsRelative]
    apply checkPath_append noNul.1 (by decide) (by decide)
    rw [String.utf8ByteSize_append] at fits ⊢
    omega
  · have isName : Path.names "." = ["."] := by decide
    rw [Path.join_of_relative pointIsRelative, startOf_append_of_relative pointIsRelative,
      Path.names_append isBeginning, follow_append, followedFirst, ok_bind, isName, follow_cons,
      enter, isFolder]
    rfl

theorem Leads.find_eq_folder {path : String} (leads : machine.Leads path place)
    (isFolder : machine.tree.item? place = some .folder) :
    ∃ entries, machine.find path = .ok (place, .folder entries) := by
  rw [Tree.item?, Option.map_eq_some_iff] at isFolder
  obtain ⟨found, there, isEntry⟩ := isFolder
  cases found with
  | file content => cases isEntry
  | folder entries => exact ⟨entries, leads.find_eq there⟩

theorem Leads.hasFolder {path : String} (leads : machine.Leads path place)
    (isFolder : machine.tree.item? place = some .folder) : machine.hasFolder path = true := by
  obtain ⟨entries, isFound⟩ := leads.find_eq_folder isFolder
  rw [Machine.hasFolder, isFound]

end Machine

end Polyview.Disk
