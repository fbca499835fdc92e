import Polyview.Document.Views
import Polyview.Text.Quoted

/-!
# Sessions

A session gives names to cells, bindings, journals and views, and works on the store that all of
them share. A name may be given again. Cells stay in the store when their names are taken away.
-/

namespace Polyview

/-- Names for the parts of an interface, and the store behind them. -/
structure Session where
  store : Store
  cells : List (String × Cell)
  bindings : List (String × Binding)
  /-- The journals of fixed bindings. -/
  journals : List (String × Journal)
  views : List (String × View)

/-- Why a text field cannot be reached. -/
inductive FieldError where
  | noSuchName
  /-- Another kind of view stands at the place. -/
  | notField (kind : String)
  deriving DecidableEq, Repr

namespace Session

def empty : Session := ⟨.empty, [], [], [], []⟩

def cell? (session : Session) (name : String) : Option Cell := session.cells.lookup name

def binding? (session : Session) (name : String) : Option Binding := session.bindings.lookup name

def journal? (session : Session) (name : String) : Option Journal := session.journals.lookup name

def view? (session : Session) (name : String) : Option View := session.views.lookup name

def addCell (session : Session) (name text : String) : Session :=
  let (cell, store) := session.store.create text
  { session with store := store, cells := (name, cell) :: session.cells }

def dropCell (session : Session) (name : String) : Session :=
  { session with cells := session.cells.filter (fun entry => entry.1 != name) }

/-- The session after a text has been written to a cell. -/
def writeCell (session : Session) (cell : Cell) (text : String) : Session :=
  { session with store := session.store.write cell text }

/-- The session after the text of a cell has been changed in place. -/
def updateCell (session : Session) (cell : Cell) (change : String → String) : Session :=
  session.writeCell cell (change (session.store.read cell))

/-- The session after a text has been added to the text of a cell. -/
def appendToCell (session : Session) (cell : Cell) (text : String) : Session :=
  session.updateCell cell fun held => held ++ text

def addBinding (session : Session) (name : String) (binding : Binding) : Session :=
  { session with bindings := (name, binding) :: session.bindings }

def addOwnBinding (session : Session) (name text : String) : Session :=
  let (cell, store) := session.store.create text
  addBinding { session with store := store } name (.cell cell)

/-- A name for a binding that always reads one text, and for its journal. -/
def addFixedBinding (session : Session) (name text : String) : Session :=
  let (journal, store) := session.store.openJournal
  addBinding { session with store := store, journals := (name, journal) :: session.journals } name
    (.fixed text journal)

/-- The session after a text has been written through a binding. -/
def writeBinding (session : Session) (binding : Binding) (text : String) : Session :=
  { session with store := binding.write session.store text }

def addView (session : Session) (name : String) (view : View) : Session :=
  { session with views := (name, view) :: session.views }

/-- A name for the view of a document, whose cells are new. -/
def addDocument (session : Session) (name : String) (document : Document) :
    Except DocumentError (View × Session) := do
  let (view, store) ← document.toView session.store
  return (view, addView { session with store := store } name view)

/-- The binding of the text field at the end of a path in a view. -/
def fieldBinding (session : Session) (name : String) (path : List Nat) :
    Except FieldError Binding :=
  match (session.view? name).bind (fun view => view.at? path) with
  | none => .error .noSuchName
  | some (.field _ binding) => .ok binding
  | some view => .error (.notField view.kind)

/-- How a cell is shown to a programmer. -/
def cellText (session : Session) (cell : Cell) : String :=
  "State(" ++ String.ofList (Text.quoted (session.store.read cell).toList) ++ ")"

/-- How a binding is shown to a programmer. -/
def bindingText (session : Session) (binding : Binding) : String :=
  "Binding(" ++ String.ofList (Text.quoted (binding.read session.store).toList) ++ ")"

end Session

end Polyview
