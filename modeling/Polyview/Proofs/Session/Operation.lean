import Polyview.Render.Style
import Polyview.Session

/-!
# Operations on a session

What a program does with cells, bindings and views, one operation after another. A cell is reached
through whatever holds it: the cell itself, a binding, or a field of a view.
-/

namespace Polyview

/-- Something through which the text of a cell is read and written. -/
inductive Holder where
  | cell (name : String)
  | binding (name : String)
  /-- The field at the end of a path in a view. -/
  | field (view : String) (path : List Nat)
  deriving DecidableEq, Repr

/-- One step of a program. -/
inductive Operation where
  /-- A name for a new cell. -/
  | createCell (name text : String)
  /-- A name for a binding that has a new cell of its own. -/
  | createBinding (name text : String)
  /-- The cell loses its name. -/
  | dropCell (name : String)
  /-- A name for a binding to what a holder holds: a projected cell or a copied binding. -/
  | bind (name : String) (holder : Holder)
  | write (holder : Holder) (text : String)
  | update (name : String) (change : String → String)
  | read (holder : Holder)
  | addLabel (name content : String)
  /-- A label with what a holder reads now. -/
  | addLabelFrom (name : String) (holder : Holder)
  | addField (name title : String) (holder : Holder)
  /-- A stack of copies of the named views. -/
  | addStack (name : String) (children : List String)
  | addDescription (name text source : String)
  /-- A copy of the view at the end of a path. -/
  | copyView (name source : String) (path : List Nat)
  | render (name : String) (style : Style)

namespace Operation

/-- The holder whose cell an operation writes. -/
def target? : Operation → Option Holder
  | .write holder _ => some holder
  | .update name _ => some (.cell name)
  | _ => none

/-- The holder for which an operation creates a cell. -/
def created? : Operation → Option Holder
  | .createCell name _ => some (.cell name)
  | .createBinding name _ => some (.binding name)
  | _ => none

end Operation

/-- The answers to operations, each of which is answered before it takes effect. -/
def answersOf {σ : Type} (perform : σ → Operation → σ) (answer : σ → Operation → Option String) :
    σ → List Operation → List (Option String)
  | _, [] => []
  | state, operation :: rest =>
      answer state operation :: answersOf perform answer (perform state operation) rest

namespace Session

/-- The binding to what a holder holds. -/
def bindingOf? (session : Session) : Holder → Option Binding
  | .cell name => (session.cell? name).map .cell
  | .binding name => session.binding? name
  | .field view path => (session.fieldBinding view path).toOption

/-- The text that is read through a holder. -/
def read? (session : Session) : Holder → Option String
  | .cell name => (session.cell? name).map session.store.read
  | .binding name => (session.binding? name).map fun binding => binding.read session.store
  | .field view path =>
      (session.fieldBinding view path).toOption.map fun binding => binding.read session.store

/-- The session after a text has been written through a holder. -/
def writeThrough (session : Session) (text : String) : Holder → Session
  | .cell name =>
      match session.cell? name with
      | some cell => session.writeCell cell text
      | none => session
  | .binding name =>
      match session.binding? name with
      | some binding => session.writeBinding binding text
      | none => session
  | .field view path =>
      match session.fieldBinding view path with
      | .ok binding => session.writeBinding binding text
      | .error _ => session

/-- The session after an operation. What names nothing has no effect. -/
def perform (session : Session) : Operation → Session
  | .createCell name text => session.addCell name text
  | .createBinding name text => session.addOwnBinding name text
  | .dropCell name => session.dropCell name
  | .bind name holder =>
      match session.bindingOf? holder with
      | some binding => session.addBinding name binding
      | none => session
  | .write holder text => session.writeThrough text holder
  | .update name change =>
      match session.cell? name with
      | some cell => session.updateCell cell change
      | none => session
  | .addLabel name content => session.addView name (.label content)
  | .addLabelFrom name holder =>
      match session.bindingOf? holder with
      | some binding => session.addView name (.labelFrom session.store binding)
      | none => session
  | .addField name title holder =>
      match session.bindingOf? holder with
      | some binding => session.addView name (.field title binding)
      | none => session
  | .addStack name children =>
      match children.mapM session.view? with
      | some views => session.addView name (.stack views)
      | none => session
  | .addDescription name text source => session.addView name (.describe text source)
  | .copyView name source path =>
      match (session.view? source).bind fun view => view.at? path with
      | some view => session.addView name view
      | none => session
  | .read _ | .render _ _ => session

/-- What an operation answers: a text that is read, or a rendering. -/
def answer (session : Session) : Operation → Option String
  | .read holder => session.read? holder
  | .render name style => (session.view? name).map fun view => view.render style session.store
  | _ => none

theorem read?_eq (session : Session) (holder : Holder) :
    session.read? holder =
      (session.bindingOf? holder).map fun binding => binding.read session.store := by
  cases holder with
  | cell name =>
      rw [read?, bindingOf?, Option.map_map]
      rfl
  | binding name => rfl
  | field view path => rfl

theorem writeThrough_eq (session : Session) (text : String) (holder : Holder) :
    session.writeThrough text holder =
      match session.bindingOf? holder with
      | some binding => session.writeBinding binding text
      | none => session := by
  cases holder with
  | cell name =>
      rw [writeThrough, bindingOf?]
      cases session.cell? name <;> rfl
  | binding name => rfl
  | field view path =>
      rw [writeThrough, bindingOf?]
      cases session.fieldBinding view path <;> rfl

/-! ## Names -/

theorem lookup_filter_ne {α : Type} (name other : String) (entries : List (String × α)) :
    (entries.filter fun entry => entry.1 != name).lookup other =
      if other = name then none else entries.lookup other := by
  induction entries with
  | nil => simp
  | cons entry rest ih =>
      by_cases isDropped : entry.1 = name
      · rw [List.filter_cons_of_neg (by simp [isDropped]), ih, List.lookup_cons, isDropped]
        by_cases isName : other = name
        · rw [if_pos isName, if_pos isName]
        · rw [if_neg isName, if_neg isName, beq_false_of_ne isName]
      · rw [List.filter_cons_of_pos (by simp [isDropped]), List.lookup_cons, List.lookup_cons, ih]
        cases isFound : other == entry.1 <;> simp_all

theorem cell?_addCell (session : Session) (name text other : String) :
    (session.addCell name text).cell? other =
      if other = name then some (session.store.create text).1 else session.cell? other := by
  simp only [cell?, addCell, List.lookup_cons]
  split <;> simp_all

theorem cell?_dropCell (session : Session) (name other : String) :
    (session.dropCell name).cell? other = if other = name then none else session.cell? other := by
  simp only [cell?, dropCell]
  exact lookup_filter_ne name other session.cells

theorem binding?_addBinding (session : Session) (name : String) (binding : Binding)
    (other : String) :
    (session.addBinding name binding).binding? other =
      if other = name then some binding else session.binding? other := by
  simp only [binding?, addBinding, List.lookup_cons]
  split <;> simp_all

theorem view?_addView (session : Session) (name : String) (view : View) (other : String) :
    (session.addView name view).view? other =
      if other = name then some view else session.view? other := by
  simp only [view?, addView, List.lookup_cons]
  split <;> simp_all

end Session

end Polyview
