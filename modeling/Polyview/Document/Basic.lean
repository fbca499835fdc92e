import Polyview.View

/-!
# View documents

A document describes an interface for storage: named texts, and a tree whose labels and fields may
refer to them by name.
-/

namespace Polyview

/-- A node of a document's tree. -/
inductive Node where
  /-- A label with its text, or with the initial value of a named text. -/
  | text (content : String) (binding : Option String)
  /-- A text field that edits a named text, or one of its own. -/
  | field (title : String) (binding : Option String) (value : String)
  | stack (children : List Node)
  /-- A source text that may declare state variables, and the body to show in its place. -/
  | description (source : String) (body : Option String)
  deriving Repr, BEq

/-- Entries with each name before all the later ones. -/
def InNameOrder (entries : List (String × String)) : Prop :=
  entries.Pairwise (fun first second => first.1 < second.1)

/-- Named texts. The names are in order, so that equal tables are written alike. -/
structure TextTable where
  entries : List (String × String)
  inOrder : InNameOrder entries
  deriving DecidableEq

namespace TextTable

def empty : TextTable := ⟨[], List.Pairwise.nil⟩

/-- Ordered entries with one more entry, which replaces an entry of the same name. -/
def insertEntry (name text : String) : List (String × String) → List (String × String)
  | [] => [(name, text)]
  | entry :: rest =>
      if name < entry.1 then (name, text) :: entry :: rest
      else if name = entry.1 then (name, text) :: rest
      else entry :: insertEntry name text rest

theorem mem_insertEntry {name text : String} {entries : List (String × String)}
    {entry : String × String} (member : entry ∈ insertEntry name text entries) :
    entry = (name, text) ∨ entry ∈ entries := by
  induction entries with
  | nil => exact .inl (by simpa [insertEntry] using member)
  | cons first rest ih =>
      unfold insertEntry at member
      split at member
      · simpa using member
      · split at member
        · rcases List.mem_cons.1 member with equal | later
          · exact .inl equal
          · exact .inr (List.mem_cons_of_mem _ later)
        · rcases List.mem_cons.1 member with equal | later
          · exact .inr (equal ▸ List.mem_cons_self)
          · exact (ih later).imp_right (List.mem_cons_of_mem _)

theorem inNameOrder_insertEntry (name text : String) {entries : List (String × String)}
    (inOrder : InNameOrder entries) : InNameOrder (insertEntry name text entries) := by
  induction entries with
  | nil => exact List.pairwise_singleton _ _
  | cons first rest ih =>
      obtain ⟨before, restInOrder⟩ := List.pairwise_cons.1 inOrder
      unfold insertEntry
      split
      next less =>
        refine List.pairwise_cons.2 ⟨?_, inOrder⟩
        intro entry member
        rcases List.mem_cons.1 member with equal | later
        · exact equal ▸ less
        · exact String.lt_trans less (before entry later)
      next notLess =>
        split
        next equal =>
          exact List.pairwise_cons.2 ⟨fun entry member => equal ▸ before entry member, restInOrder⟩
        next unequal =>
          refine List.pairwise_cons.2 ⟨?_, ih restInOrder⟩
          intro entry member
          rcases mem_insertEntry member with equal | later
          · subst equal
            exact Decidable.byContradiction fun notGreater =>
              unequal (String.le_antisymm (String.not_lt.1 notGreater) (String.not_lt.1 notLess))
          · exact before entry later

/-- A table with one more entry, which replaces an entry of the same name. -/
def insert (table : TextTable) (name text : String) : TextTable :=
  ⟨insertEntry name text table.entries, inNameOrder_insertEntry name text table.inOrder⟩

end TextTable

/-- A tree with the named texts that it may refer to. -/
structure Document where
  state : TextTable
  root : Node
  deriving BEq

end Polyview
