import Mathlib.Logic.Function.Basic
import Polyview.Proofs.Session.Operation
import Polyview.Proofs.Sketch

/-!
# Histories of writes

An account of a program keeps every text that was written, with the number of the cell to which it
went; nothing is ever replaced. Reading looks up the latest write to a cell.
-/

namespace Polyview

/-- A history of writes, and the cells that names stand for. Cells are numbered in the order of
their creation. -/
structure Account where
  /-- How many cells there are. -/
  created : Nat
  /-- The texts written to cells, the latest first. A new cell counts as written. -/
  writes : List (Nat × String)
  cells : String → Option Nat
  bindings : String → Option Nat
  views : String → Option (Sketch Nat)

namespace Account

def empty : Account := ⟨0, [], fun _ => none, fun _ => none, fun _ => none⟩

/-- The text last written to a cell. -/
def current (account : Account) (number : Nat) : String := (account.writes.lookup number).getD ""

/-- The cell that is reached through a holder. -/
def numberOf? (account : Account) : Holder → Option Nat
  | .cell name => account.cells name
  | .binding name => account.bindings name
  | .field view path => (account.views view).bind fun sketch => sketch.held? path

def record (account : Account) (number : Nat) (text : String) : Account :=
  { account with writes := (number, text) :: account.writes }

/-- The account with one more cell. -/
def create (account : Account) (text : String) : Account :=
  { account.record account.created text with created := account.created + 1 }

def nameCell (account : Account) (name : String) (number : Option Nat) : Account :=
  { account with cells := Function.update account.cells name number }

def nameBinding (account : Account) (name : String) (number : Nat) : Account :=
  { account with bindings := Function.update account.bindings name (some number) }

def nameView (account : Account) (name : String) (sketch : Sketch Nat) : Account :=
  { account with views := Function.update account.views name (some sketch) }

/-- The account after an operation. -/
def after (account : Account) : Operation → Account
  | .createCell name text => (account.create text).nameCell name (some account.created)
  | .createBinding name text => (account.create text).nameBinding name account.created
  | .dropCell name => account.nameCell name none
  | .bind name holder =>
      match account.numberOf? holder with
      | some number => account.nameBinding name number
      | none => account
  | .write holder text =>
      match account.numberOf? holder with
      | some number => account.record number text
      | none => account
  | .update name change =>
      match account.cells name with
      | some number => account.record number (change (account.current number))
      | none => account
  | .addLabel name content => account.nameView name (.label content)
  | .addLabelFrom name holder =>
      match account.numberOf? holder with
      | some number => account.nameView name (.label (account.current number))
      | none => account
  | .addField name title holder =>
      match account.numberOf? holder with
      | some number => account.nameView name (.field title number)
      | none => account
  | .addStack name children =>
      match children.mapM account.views with
      | some sketches => account.nameView name (.stack sketches)
      | none => account
  | .addDescription name text source =>
      account.nameView name (.description text (StateVariable.scan source))
  | .copyView name source path =>
      match (account.views source).bind fun sketch => sketch.at? path with
      | some sketch => account.nameView name sketch
      | none => account
  | .read _ | .render _ _ => account

/-- What an operation answers: the text last written to a cell, or a rendering with the texts last
written to the cells in its fields. -/
def answer (account : Account) : Operation → Option String
  | .read holder => (account.numberOf? holder).map account.current
  | .render name style =>
      (account.views name).map fun sketch => (sketch.map account.current).render style
  | _ => none

@[simp]
theorem current_record_self (account : Account) (number : Nat) (text : String) :
    (account.record number text).current number = text := by
  simp [current, record]

theorem current_record_of_ne {number other : Nat} (distinct : number ≠ other)
    (account : Account) (text : String) :
    (account.record number text).current other = account.current other := by
  have notFound : (other == number) = false := beq_false_of_ne (Ne.symm distinct)
  simp [current, record, List.lookup_cons, notFound]

theorem cells_nameCell (account : Account) (name : String) (number : Option Nat)
    (other : String) :
    (account.nameCell name number).cells other =
      if other = name then number else account.cells other :=
  Function.update_apply ..

theorem bindings_nameBinding (account : Account) (name : String) (number : Nat)
    (other : String) :
    (account.nameBinding name number).bindings other =
      if other = name then some number else account.bindings other :=
  Function.update_apply ..

theorem views_nameView (account : Account) (name : String) (sketch : Sketch Nat)
    (other : String) :
    (account.nameView name sketch).views other =
      if other = name then some sketch else account.views other :=
  Function.update_apply ..

end Account

end Polyview
