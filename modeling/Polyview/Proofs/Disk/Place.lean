import Polyview.Disk.Place
import Polyview.Proofs.Disk.Path
import Polyview.Proofs.Disk.Tree
import Polyview.Proofs.Result

/-!
# Where names lead

There are no links, so names that can be followed lead to the place that they spell, whatever the
tree holds. A tree that grows keeps its folders and files, so names that can be followed in it can
be followed later, and names that cannot be followed can only be followed later if something on the
way was missing.
-/

namespace Polyview.Disk

/-- A name that stands for an entry of a folder. -/
structure IsOrdinary (name : String) : Prop where
  notEmpty : name ≠ ""
  notPoint : name ≠ "."
  notPoints : name ≠ ".."

/-- A name with something appended to it is the name of an entry, unless that is very short. -/
theorem isOrdinary_append {ending : String} (isLong : 2 < ending.length) (begun : String) :
    IsOrdinary (begun ++ ending) := by
  have isLonger (other : String) (isShort : other.length ≤ 2) : begun ++ ending ≠ other := by
    rintro rfl
    rw [String.length_append] at isShort
    omega
  exact ⟨isLonger "" (by decide), isLonger "." (by decide), isLonger ".." (by decide)⟩

/-- The place that a name spells from a place. -/
def stepFrom (place : List String) (name : String) : List String :=
  if name = "" ∨ name = "." then place
  else if name = ".." then place.dropLast
  else place ++ [name]

/-- The place that names spell from a place. -/
def placeFrom (place names : List String) : List String := names.foldl stepFrom place

theorem placeFrom_append (place first second : List String) :
    placeFrom place (first ++ second) = placeFrom (placeFrom place first) second :=
  List.foldl_append

theorem IsOrdinary.stepFrom {name : String} (isOrdinary : IsOrdinary name) (place : List String) :
    stepFrom place name = place ++ [name] := by
  rw [Disk.stepFrom, if_neg (not_or.mpr ⟨isOrdinary.notEmpty, isOrdinary.notPoint⟩),
    if_neg isOrdinary.notPoints]

/-- Without two points, names only lead further in. -/
theorem prefix_placeFrom {names : List String} (neverBack : ".." ∉ names) (place : List String) :
    place <+: placeFrom place names := by
  induction names generalizing place with
  | nil => exact List.prefix_refl place
  | cons name names ih =>
      obtain ⟨notPoints, neverBack⟩ := not_or.mp (mt List.mem_cons.mpr neverBack)
      have step : place <+: stepFrom place name := by
        unfold stepFrom
        split
        · exact List.prefix_refl place
        · rw [if_neg (Ne.symm notPoints)]
          exact List.prefix_append place [name]
      exact step.trans (ih neverBack (stepFrom place name))

/-! ## Following names -/

/-- The first of the names that are followed. -/
def enter (tree : Tree) (place : List String) (name : String) : Except Fault (List String) :=
  match tree.item? place with
  | none => .error .missing
  | some (.file _) => .error .notFolder
  | some .folder =>
      if name = "" ∨ name = "." ∨ name = ".." then .ok (stepFrom place name)
      else if longestName < name.utf8ByteSize then .error .nameTooLong
      else if (tree.item? (place ++ [name])).isSome then .ok (place ++ [name])
      else .error .missing

theorem follow_cons (tree : Tree) (place : List String) (name : String) (rest : List String) :
    follow tree place (name :: rest) =
      enter tree place name >>= fun next => follow tree next rest := by
  rw [follow, enter, Tree.item?]
  cases tree.get? place with
  | none => rfl
  | some found =>
      cases found with
      | file content => rfl
      | folder entries =>
          simp only [Option.map_some, Tree.entry, Tree.item?, Option.isSome_map]
          by_cases isEmpty : name = ""
          · simp [isEmpty, stepFrom]
          by_cases isPoint : name = "."
          · simp [isPoint, stepFrom]
          by_cases isPoints : name = ".."
          · simp [isPoints, stepFrom]
          simp only [isEmpty, isPoint, isPoints, or_self, if_false]
          split
          · rfl
          · split <;> rfl

theorem follow_append (tree : Tree) (place first second : List String) :
    follow tree place (first ++ second) =
      follow tree place first >>= fun found => follow tree found second := by
  induction first generalizing place with
  | nil => rfl
  | cons name first ih =>
      rw [List.cons_append, follow_cons, follow_cons]
      cases enter tree place name with
      | error fault => rfl
      | ok next => exact ih next

theorem enter_eq_ok {tree : Tree} {place next : List String} {name : String}
    (entered : enter tree place name = .ok next) :
    next = stepFrom place name ∧ (tree.item? next).isSome := by
  unfold enter at entered
  split at entered
  next => cases entered
  next => cases entered
  next isFolder =>
    split at entered
    next special =>
      obtain rfl := Except.ok.inj entered
      refine ⟨rfl, ?_⟩
      unfold stepFrom
      split
      · rw [isFolder]
        rfl
      next notHere =>
        obtain ⟨notEmpty, notPoint⟩ := not_or.mp notHere
        have isPoints : name = ".." := (special.resolve_left notEmpty).resolve_left notPoint
        rw [if_pos isPoints, Tree.item?_dropLast isFolder]
        rfl
    next notSpecial =>
      simp only [not_or] at notSpecial
      obtain ⟨notEmpty, notPoint, notPoints⟩ := notSpecial
      split at entered
      next => cases entered
      next =>
        split at entered
        next isThere =>
          obtain rfl := Except.ok.inj entered
          exact ⟨(IsOrdinary.stepFrom ⟨notEmpty, notPoint, notPoints⟩ place).symm, isThere⟩
        next => cases entered

theorem enter_ordinary {tree : Tree} {folder : List String} {name : String}
    (isFolder : tree.item? folder = some .folder) (isOrdinary : IsOrdinary name)
    (fits : ¬ longestName < name.utf8ByteSize)
    (isThere : (tree.item? (folder ++ [name])).isSome) :
    enter tree folder name = .ok (folder ++ [name]) := by
  have notSpecial : ¬(name = "" ∨ name = "." ∨ name = "..") := by
    simp [isOrdinary.notEmpty, isOrdinary.notPoint, isOrdinary.notPoints]
  simp only [enter, isFolder]
  rw [if_neg notSpecial, if_neg fits, if_pos isThere]

/-- Names that can be followed lead to the place that they spell. -/
theorem follow_eq_ok {tree : Tree} {place found : List String} {names : List String}
    (followed : follow tree place names = .ok found) : found = placeFrom place names := by
  induction names generalizing place with
  | nil => exact (Except.ok.inj followed).symm
  | cons name names ih =>
      rw [follow_cons, bind_eq_ok] at followed
      obtain ⟨next, entered, rest⟩ := followed
      obtain ⟨rfl, -⟩ := enter_eq_ok entered
      exact ih rest

/-- Names that can be followed lead to something. -/
theorem isSome_item?_of_follow {tree : Tree} {place found : List String} {names : List String}
    (someNames : names ≠ []) (followed : follow tree place names = .ok found) :
    (tree.item? found).isSome := by
  induction names generalizing place with
  | nil => exact absurd rfl someNames
  | cons name names ih =>
      rw [follow_cons, bind_eq_ok] at followed
      obtain ⟨next, entered, rest⟩ := followed
      cases names with
      | nil =>
          obtain rfl := Except.ok.inj rest
          exact (enter_eq_ok entered).2
      | cons => exact ih (List.cons_ne_nil _ _) rest

theorem exists_enter_of_follow {tree : Tree} {place : List String} {names : List String}
    {fault : Fault} (failed : follow tree place names = .error fault) :
    ∃ outer name inner found, names = outer ++ name :: inner ∧
      follow tree place outer = .ok found ∧ enter tree found name = .error fault := by
  induction names generalizing place with
  | nil => cases failed
  | cons name names ih =>
      rw [follow_cons] at failed
      cases entered : enter tree place name with
      | error other =>
          rw [entered] at failed
          obtain rfl := Except.error.inj failed
          exact ⟨[], name, names, place, rfl, rfl, entered⟩
      | ok next =>
          rw [entered] at failed
          obtain ⟨outer, other, inner, found, rfl, followed, failsThere⟩ := ih failed
          refine ⟨name :: outer, other, inner, found, rfl, ?_, failsThere⟩
          rw [follow_cons, entered]
          exact followed

theorem item?_eq_none_of_enter {tree : Tree} {place : List String} {name : String}
    (missing : enter tree place name = .error .missing) (notPoints : name ≠ "..") :
    tree.item? (stepFrom place name) = none := by
  unfold enter at missing
  split at missing
  next nothing =>
    unfold stepFrom
    split
    · exact nothing
    · exact Tree.item?_append_eq_none nothing [name]
  next => cases missing
  next =>
    split at missing
    next => cases missing
    next notSpecial =>
      simp only [not_or] at notSpecial
      obtain ⟨notEmpty, notPoint, -⟩ := notSpecial
      split at missing
      next => cases missing
      next =>
        split at missing
        next => cases missing
        next notThere =>
          rw [IsOrdinary.stepFrom ⟨notEmpty, notPoint, notPoints⟩ place]
          simpa using notThere

/-- Names that lead on from something missing spell a place where nothing is, unless two points
among them lead back. -/
theorem item?_placeFrom_eq_none {tree : Tree} {start names more : List String}
    (missing : follow tree start names = .error .missing)
    (neverBack : ∀ outer inner, names = outer ++ ".." :: inner →
      follow tree start (outer ++ [".."]) ≠ .error .missing)
    (neverBackLater : ".." ∉ more) :
    tree.item? (placeFrom start (names ++ more)) = none := by
  obtain ⟨outer, name, inner, found, rfl, followed, missingThere⟩ := exists_enter_of_follow missing
  -- However many of the later names are followed, this is where they fail.
  have stillMissing (later : List String) :
      follow tree start (outer ++ name :: later) = .error .missing := by
    rw [follow_append, followed, ok_bind, follow_cons, missingThere]
    rfl
  have notPoints : name ≠ ".." := by
    rintro rfl
    exact neverBack outer inner rfl (stillMissing [])
  have notInside : ".." ∉ inner := by
    intro member
    obtain ⟨first, second, rfl⟩ := List.append_of_mem member
    apply neverBack (outer ++ name :: first) second (by simp)
    rw [List.append_assoc, List.cons_append]
    exact stillMissing (first ++ [".."])
  have nothing := item?_eq_none_of_enter missingThere notPoints
  have isPlace : placeFrom start (outer ++ name :: inner ++ more) =
      placeFrom (stepFrom found name) (inner ++ more) := by
    rw [List.append_assoc, placeFrom_append, ← follow_eq_ok followed]
    rfl
  have noPoints : ".." ∉ inner ++ more := by
    rw [List.mem_append]
    exact not_or.mpr ⟨notInside, neverBackLater⟩
  obtain ⟨below, isBelow⟩ := prefix_placeFrom noPoints (stepFrom found name)
  rw [isPlace, ← isBelow]
  exact Tree.item?_append_eq_none nothing below

/-! ## Growing trees -/

/-- What is in a tree stays there, folders as folders and files as files. -/
def Tree.Grows (before after : Tree) : Prop :=
  ∀ place entry, before.item? place = some entry →
    ∃ later, after.item? place = some later ∧ later.isFolder = entry.isFolder

namespace Tree.Grows

variable {before middle after : Tree}

theorem trans (first : before.Grows middle) (second : middle.Grows after) :
    before.Grows after := by
  intro place entry found
  obtain ⟨next, isNext, sameKind⟩ := first place entry found
  obtain ⟨later, isLater, sameKindLater⟩ := second place next isNext
  exact ⟨later, isLater, sameKindLater.trans sameKind⟩

theorem isSome (grows : before.Grows after) {place : List String}
    (found : (before.item? place).isSome) : (after.item? place).isSome := by
  obtain ⟨entry, isEntry⟩ := Option.isSome_iff_exists.mp found
  obtain ⟨later, isLater, -⟩ := grows place entry isEntry
  exact Option.isSome_iff_exists.mpr ⟨later, isLater⟩

/-- The next name still leads on, or still fails, unless it led to nothing. -/
theorem enter_eq (grows : before.Grows after) {place : List String} {name : String}
    (notMissing : enter before place name ≠ .error .missing) :
    enter after place name = enter before place name := by
  unfold enter at notMissing ⊢
  cases found : before.item? place with
  | none => simp [found] at notMissing
  | some entry =>
      obtain ⟨later, isLater, sameKind⟩ := grows place entry found
      rw [isLater]
      rw [found] at notMissing
      cases entry with
      | file content =>
          cases later with
          | file laterContent => rfl
          | folder => cases sameKind
      | folder =>
          cases later with
          | file laterContent => cases sameKind
          | folder =>
              simp only at notMissing ⊢
              split
              next => rfl
              next special =>
                rw [if_neg special] at notMissing
                split
                next => rfl
                next fits =>
                  rw [if_neg fits] at notMissing
                  split at notMissing
                  next isThere => rw [if_pos isThere, if_pos (grows.isSome isThere)]
                  next => exact absurd rfl notMissing

theorem follow_eq (grows : before.Grows after) {place : List String} {names : List String}
    (notMissing : follow before place names ≠ .error .missing) :
    follow after place names = follow before place names := by
  induction names generalizing place with
  | nil => rfl
  | cons name names ih =>
      rw [follow_cons] at notMissing
      have sameStep : enter after place name = enter before place name := by
        apply grows.enter_eq
        intro missing
        rw [missing] at notMissing
        exact notMissing rfl
      rw [follow_cons, follow_cons, sameStep]
      cases entered : enter before place name with
      | error fault => rfl
      | ok next =>
          rw [entered] at notMissing
          exact ih notMissing

end Tree.Grows

/-! ## Destinations -/

/-- What a name in a folder can be the destination of. -/
inductive IsDestination (tree : Tree) (folder : List String) (name : String) : Destination → Prop
  /-- The folder itself or the folder around it. -/
  | around {place : List String} (isFolder : tree.item? place = some .folder) :
      IsDestination tree folder name (.present place)
  | present (isOrdinary : IsOrdinary name) (fits : ¬ longestName < name.utf8ByteSize)
      (isThere : (tree.item? (folder ++ [name])).isSome) :
      IsDestination tree folder name (.present (folder ++ [name]))
  | free (isOrdinary : IsOrdinary name) (fits : ¬ longestName < name.utf8ByteSize)
      (isFree : tree.item? (folder ++ [name]) = none) :
      IsDestination tree folder name (.free folder name)

theorem isDestination_of_destinationIn {tree : Tree} {folder : List String} {name : String}
    {destination : Destination} (found : destinationIn tree folder name = .ok destination) :
    tree.item? folder = some .folder ∧ IsDestination tree folder name destination := by
  unfold destinationIn at found
  split at found
  next => cases found
  next => cases found
  next entries there =>
    have isFolder : tree.item? folder = some .folder := by
      rw [Tree.item?, there]
      rfl
    refine ⟨isFolder, ?_⟩
    split at found
    next =>
      obtain rfl := Except.ok.inj found
      exact .around isFolder
    next notHere =>
      split at found
      next =>
        obtain rfl := Except.ok.inj found
        exact .around (Tree.item?_dropLast isFolder)
      next notPoints =>
        obtain ⟨notEmpty, notPoint⟩ := not_or.mp notHere
        split at found
        next => cases found
        next fits =>
          split at found
          next isThere =>
            obtain rfl := Except.ok.inj found
            refine .present ⟨notEmpty, notPoint, notPoints⟩ fits ?_
            rw [Tree.item?, Option.isSome_map]
            exact isThere
          next isFree =>
            obtain rfl := Except.ok.inj found
            refine .free ⟨notEmpty, notPoint, notPoints⟩ fits ?_
            rw [Tree.item?, Option.map_eq_none_iff]
            simpa using isFree

theorem isDestination_of_destinationOf {tree : Tree} {start names : List String}
    {destination : Destination} (found : destinationOf tree start names = .ok destination) :
    ∃ folder, follow tree start names.dropLast = .ok folder ∧
      tree.item? folder = some .folder ∧
      IsDestination tree folder (names.getLast?.getD "") destination := by
  rw [destinationOf, bind_eq_ok] at found
  obtain ⟨folder, followed, found⟩ := found
  exact ⟨folder, followed, isDestination_of_destinationIn found⟩

theorem IsDestination.of_free {tree : Tree} {folder other : List String} {name last : String}
    (isFree : IsDestination tree folder last (.free other name)) :
    other = folder ∧ name = last ∧ IsOrdinary name ∧ ¬ longestName < name.utf8ByteSize ∧
      tree.item? (folder ++ [name]) = none := by
  cases isFree with
  | free isOrdinary fits nothing => exact ⟨rfl, rfl, isOrdinary, fits, nothing⟩

/-- Only a file that has the name itself can be replaced. -/
theorem IsDestination.of_file {tree : Tree} {folder place : List String} {last content : String}
    (isPresent : IsDestination tree folder last (.present place))
    (isFile : tree.item? place = some (.file content)) :
    place = folder ++ [last] ∧ IsOrdinary last ∧ ¬ longestName < last.utf8ByteSize := by
  cases isPresent with
  | around isFolder =>
      rw [isFile] at isFolder
      cases isFolder
  | present isOrdinary fits isThere => exact ⟨rfl, isOrdinary, fits⟩

/-! ## Paths -/

/-- The place that a path spells. -/
def placeAt (here : List String) (path : String) : List String :=
  placeFrom (startOf here path) (Path.names path)

theorem placeAt_eq_append {path : String} (isOrdinary : IsOrdinary (Path.lastName path))
    (here : List String) :
    placeAt here path =
      placeFrom (startOf here path) (Path.names path).dropLast ++ [Path.lastName path] := by
  have parted := congrArg (placeFrom (startOf here path)) (Path.names_eq path)
  rw [placeFrom_append] at parted
  exact parted.trans (isOrdinary.stepFrom _)

theorem placeAt_eq_of_follow {tree : Tree} {here folder : List String} {path : String}
    (isOrdinary : IsOrdinary (Path.lastName path))
    (followed : follow tree (startOf here path) (Path.names path).dropLast = .ok folder) :
    placeAt here path = folder ++ [Path.lastName path] := by
  rw [placeAt_eq_append isOrdinary, ← follow_eq_ok followed]

/-- Paths that spell one place have one last name. -/
theorem lastName_eq_of_placeAt_eq {first second : String}
    (firstOrdinary : IsOrdinary (Path.lastName first))
    (secondOrdinary : IsOrdinary (Path.lastName second)) {here : List String}
    (same : placeAt here first = placeAt here second) :
    Path.lastName first = Path.lastName second := by
  rw [placeAt_eq_append firstOrdinary, placeAt_eq_append secondOrdinary] at same
  exact List.singleton_inj.mp (List.append_inj_right' same rfl)

end Polyview.Disk
