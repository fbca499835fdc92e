import Polyview.Disk.Tree

/-!
# What is where in a file tree

A tree is looked at place by place: a place has a file with its content, a folder, or nothing. A
file or an empty folder that is put at a place changes what is at this place and nowhere else.
-/

namespace Polyview.Disk

/-- What is at a place, apart from what a folder holds. -/
inductive Entry where
  | file (content : String)
  | folder
  deriving DecidableEq, Repr

def Entry.isFolder : Entry → Bool
  | .file _ => false
  | .folder => true

namespace Tree

def entry : Tree → Entry
  | .file content => .file content
  | .folder _ => .folder

/-- What is at a place of a tree, if anything is. -/
def item? (tree : Tree) (place : List String) : Option Entry := (tree.get? place).map entry

/-- The content of the file at a place, if there is a file. -/
def text? (tree : Tree) (place : List String) : Option String :=
  match tree.item? place with
  | some (.file content) => some content
  | _ => none

theorem text?_eq_some {tree : Tree} {place : List String} {content : String} :
    tree.text? place = some content ↔ tree.item? place = some (.file content) := by
  unfold text?
  split
  next found => simp [found]
  next noFile =>
    refine ⟨nofun, fun found => ?_⟩
    exact absurd found (noFile content)

/-! ## Places inside one another -/

@[simp]
theorem get?_nil (tree : Tree) : tree.get? [] = some tree := by
  cases tree <;> rfl

theorem get?_folder (entries : List (String × Tree)) (name : String) (inner : List String) :
    (Tree.folder entries).get? (name :: inner) =
      (entries.lookup name).bind fun entry => entry.get? inner := by
  rw [get?]
  cases entries.lookup name <;> rfl

theorem get?_append (tree : Tree) (outer inner : List String) :
    tree.get? (outer ++ inner) = (tree.get? outer).bind fun found => found.get? inner := by
  induction outer generalizing tree with
  | nil => simp
  | cons name outer ih =>
      cases tree with
      | file content => rfl
      | folder entries =>
          rw [List.cons_append, get?_folder, get?_folder, Option.bind_assoc]
          exact Option.bind_congr fun entry _ => ih entry

theorem item?_append_eq_none {tree : Tree} {outer : List String}
    (nothing : tree.item? outer = none) (inner : List String) :
    tree.item? (outer ++ inner) = none := by
  rw [item?, Option.map_eq_none_iff] at nothing ⊢
  rw [get?_append, nothing, Option.bind_none]

/-- Whatever is at a place has folders all around it. -/
theorem item?_eq_folder_of_append {tree : Tree} {outer : List String} {name : String}
    {inner : List String} (found : (tree.item? (outer ++ name :: inner)).isSome) :
    tree.item? outer = some .folder := by
  rw [item?, Option.isSome_map, get?_append] at found
  rw [item?]
  cases around : tree.get? outer with
  | none => simp [around] at found
  | some other =>
      cases other with
      | file content => simp [around, get?] at found
      | folder entries => rfl

theorem item?_dropLast {tree : Tree} {place : List String}
    (isFolder : tree.item? place = some .folder) :
    tree.item? place.dropLast = some .folder := by
  rcases List.eq_nil_or_concat place with rfl | ⟨outer, name, rfl⟩
  · exact isFolder
  · rw [List.concat_eq_append] at isFolder ⊢
    rw [List.dropLast_concat]
    exact item?_eq_folder_of_append (Option.isSome_iff_exists.mpr ⟨_, isFolder⟩)

/-! ## Putting something at a place -/

/-- Nothing is inside a tree: it is a file or an empty folder. -/
def IsLeaf (tree : Tree) : Prop := ∀ name inner, tree.get? (name :: inner) = none

theorem isLeaf_file (content : String) : (Tree.file content).IsLeaf := fun _ _ => rfl

theorem isLeaf_empty : empty.IsLeaf := fun _ _ => rfl

theorem lookup_cons_self (name : String) (tree : Tree) (entries : List (String × Tree)) :
    ((name, tree) :: entries).lookup name = some tree := by
  rw [List.lookup_cons, beq_self_eq_true]

theorem lookup_cons_of_ne {name other : String} (different : other ≠ name) (tree : Tree)
    (entries : List (String × Tree)) :
    ((name, tree) :: entries).lookup other = entries.lookup other := by
  rw [List.lookup_cons, beq_false_of_ne different]

theorem lookup_setEntry_self (name : String) (tree : Tree) (entries : List (String × Tree)) :
    (setEntry name tree entries).lookup name = some tree := by
  induction entries with
  | nil => exact lookup_cons_self name tree []
  | cons entry entries ih =>
      rw [setEntry]
      split
      · exact lookup_cons_self name tree entries
      · next different => rw [lookup_cons_of_ne (Ne.symm different), ih]

theorem lookup_setEntry_of_ne {name other : String} (different : other ≠ name) (tree : Tree)
    (entries : List (String × Tree)) :
    (setEntry name tree entries).lookup other = entries.lookup other := by
  induction entries with
  | nil => exact lookup_cons_of_ne different tree []
  | cons entry entries ih =>
      obtain ⟨entryName, old⟩ := entry
      rw [setEntry]
      split
      next same =>
        obtain rfl : entryName = name := same
        rw [lookup_cons_of_ne different, lookup_cons_of_ne different]
      next =>
        by_cases isOther : other = entryName
        · rw [isOther, lookup_cons_self, lookup_cons_self]
        · rw [lookup_cons_of_ne isOther, lookup_cons_of_ne isOther, ih]

theorem put_nil (new tree : Tree) : put new tree [] = new := by
  cases tree <;> rfl

theorem put_here (new : Tree) (entries : List (String × Tree)) (name : String) :
    put new (.folder entries) [name] = .folder (setEntry name new entries) := by
  unfold put
  split
  · rw [put_nil]
  · rfl
  · contradiction

theorem put_below (new : Tree) {entries : List (String × Tree)} {name : String} {entry : Tree}
    (isEntry : entries.lookup name = some entry) (place : List String) :
    put new (.folder entries) (name :: place) =
      .folder (setEntry name (put new entry place) entries) := by
  rw [put]
  simp only [isEntry]

/-- A file or an empty folder that is put into a folder, under a name that is free or that another
file or empty folder has, is there afterwards, and everything else is as before. -/
theorem item?_put {new tree : Tree} (newIsLeaf : new.IsLeaf) {folder : List String}
    {name : String} (isFolder : tree.item? folder = some .folder)
    (oldIsLeaf : ∀ old, tree.get? (folder ++ [name]) = some old → old.IsLeaf)
    (place : List String) :
    (put new tree (folder ++ [name])).item? place =
      if place = folder ++ [name] then some new.entry else tree.item? place := by
  -- On the way in, only the entries on the way are replaced, and by trees that differ further in.
  induction folder generalizing tree place with
  | nil =>
      cases tree with
      | file content => cases isFolder
      | folder entries =>
          rw [List.nil_append, put_here]
          cases place with
          | nil => rfl
          | cons other inner =>
              rw [item?, item?, get?_folder, get?_folder]
              by_cases same : other = name
              · subst same
                rw [lookup_setEntry_self, Option.bind_some]
                cases inner with
                | nil => rw [get?_nil, if_pos rfl, Option.map_some]
                | cons next inner =>
                    rw [newIsLeaf, if_neg (by simp)]
                    cases isOld : entries.lookup other with
                    | none => rfl
                    | some old =>
                        have leaf := oldIsLeaf old (by
                          rw [List.nil_append, get?_folder, isOld, Option.bind_some, get?_nil])
                        rw [Option.bind_some, leaf]
              · rw [lookup_setEntry_of_ne same, if_neg (by simp [same])]
  | cons outer folder ih =>
      cases tree with
      | file content => cases isFolder
      | folder entries =>
          rw [item?, get?_folder] at isFolder
          cases isEntry : entries.lookup outer with
          | none => simp [isEntry] at isFolder
          | some entry =>
              rw [isEntry, Option.bind_some] at isFolder
              have leaf (old : Tree) (isOld : entry.get? (folder ++ [name]) = some old) :
                  old.IsLeaf := by
                apply oldIsLeaf old
                rw [List.cons_append, get?_folder, isEntry, Option.bind_some, isOld]
              rw [List.cons_append, put_below new isEntry]
              cases place with
              | nil => rfl
              | cons other inner =>
                  rw [item?, item?, get?_folder, get?_folder]
                  by_cases same : other = outer
                  · subst same
                    have below := ih isFolder leaf inner
                    rw [item?, item?] at below
                    rw [lookup_setEntry_self, isEntry, Option.bind_some, Option.bind_some, below]
                    simp only [List.cons.injEq, true_and]
                  · rw [lookup_setEntry_of_ne same, if_neg (by simp [same])]

end Tree

end Polyview.Disk
