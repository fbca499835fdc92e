import Polyview.Toml.Value

/-!
# Building tables

The lines of a TOML text add to tables bit by bit. A table that has been defined by a header or
written out as a value may not be defined again, nor be added to by dotted keys; one that only
stands on the way to another table may be defined later, once.
-/

namespace Polyview.Toml

/-- How a table came about. -/
inductive Origin where
  /-- On the way to a table with a header of its own. -/
  | implied
  /-- By a dotted key. -/
  | dotted
  /-- By a header, or as the table of the whole text. -/
  | defined
  deriving DecidableEq, Repr

/-- What stands under a key while a text is read. -/
inductive Item where
  | value (value : Value)
  | table (origin : Origin) (entries : List (String × Item))
  /-- Tables that share a header between double brackets, of which the last one may still grow. -/
  | tables (all : List Item)

/-- What stands under the keys of a table. -/
abbrev Entries := List (String × Item)

def setItem (key : String) (item : Item) : Entries → Entries
  | [] => [(key, item)]
  | entry :: rest =>
      if entry.1 = key then (key, item) :: rest else entry :: setItem key item rest

/-- Change the table at the end of a path. Tables that are missing on the way are put in with the
given origin. Dotted keys do not lead through a table that has been defined. -/
def changeAt (missing : Origin) (change : Origin → Entries → Option Entries)
    (origin : Origin) (entries : Entries) : List String → Option Entries
  | [] => change origin entries
  | key :: rest =>
      match entries.lookup key with
      | none => do
          let inner ← changeAt missing change missing [] rest
          return setItem key (.table missing inner) entries
      | some (.table origin inner) =>
          if missing = .dotted ∧ origin = .defined then
            none
          else do
            let inner ← changeAt missing change origin inner rest
            return setItem key (.table origin inner) entries
      | some (.tables all) =>
          match missing, all.getLast? with
          | .implied, some (.table origin inner) => do
              let inner ← changeAt missing change origin inner rest
              return setItem key (.tables (all.dropLast ++ [.table origin inner])) entries
          | .dotted, some (.table _ _) => none
          | _, _ => none
      | some (.value _) => none

/-- Entries with a value under a key that nothing stands under yet. A dotted key adds only to tables
that dotted keys have made, and a plain key only to the table at hand. -/
def addValue (path : List String) (key : String) (value : Value) (origin : Origin)
    (entries : Entries) : Option Entries :=
  let add (origin : Origin) (entries : Entries) : Option Entries :=
    if (origin = .dotted) = path.isEmpty ∨ (entries.lookup key).isSome then none
    else some (entries ++ [(key, .value value)])
  changeAt .dotted add origin entries path

def defineTable (key : String) (entries : Entries) : Option Entries :=
  match entries.lookup key with
  | none => some (entries ++ [(key, .table .defined [])])
  | some (.table .implied inner) => some (setItem key (.table .defined inner) entries)
  | some _ => none

/-- Entries with one more table for a header between double brackets. -/
def appendTable (key : String) (entries : Entries) : Option Entries :=
  match entries.lookup key with
  | none => some (entries ++ [(key, .tables [.table .defined []])])
  | some (.tables all) => some (setItem key (.tables (all ++ [.table .defined []])) entries)
  | some _ => none

mutual

def Item.toValue : Item → Value
  | .value known => known
  | .table _ entries => .table (Item.toMembers entries)
  | .tables all => .list (Item.toValues all)

def Item.toMembers : List (String × Item) → List (String × Value)
  | [] => []
  | (key, item) :: rest => (key, item.toValue) :: Item.toMembers rest

def Item.toValues : List Item → List Value
  | [] => []
  | item :: rest => item.toValue :: Item.toValues rest

end

/-- The table of key-value pairs between braces. -/
def tableOf? (pairs : List (List String × Value)) : Option Value := do
  let entries ← pairs.foldlM (fun entries (path, value) =>
    addValue path.dropLast (path.getLast?.getD "") value .defined entries) []
  return .table (Item.toMembers entries)

end Polyview.Toml
