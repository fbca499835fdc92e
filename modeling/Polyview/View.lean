import Polyview.StateVariable
import Polyview.Store

/-!
# Views

An interface is a tree of labels, text fields, vertical stacks and descriptions. A label holds its
text; a text field holds a binding, so what it shows follows the store.
-/

namespace Polyview

/-- A node of an interface. -/
inductive View where
  /-- A label with a text of its own. -/
  | label (content : String)
  /-- A text field, which shows and edits what its binding reads. -/
  | field (title : String) (binding : Binding)
  /-- Views from top to bottom. -/
  | stack (children : List View)
  /-- A body written for SwiftUI, with the state variables that it declares. -/
  | description (text : String) (declared : List StateVariable)
  deriving Repr

namespace View

def labelFrom (store : Store) (binding : Binding) : View := .label (binding.read store)

/-- A description with the state variables that a source text declares. -/
def describe (text source : String) : View := .description text (StateVariable.scan source)

def children : View → List View
  | .stack children => children
  | _ => []

def kind : View → String
  | .label _ => "Text"
  | .field _ _ => "TextField"
  | .stack _ => "VStack"
  | .description _ _ => "Description"

mutual

/-- The number of views in a tree. -/
def nodeCount : View → Nat
  | .stack children => 1 + nodeCountAll children
  | .label _ | .field _ _ | .description _ _ => 1

def nodeCountAll : List View → Nat
  | [] => 0
  | view :: rest => view.nodeCount + nodeCountAll rest

end

/-- The view at the end of a path of child positions. -/
def at? (view : View) : List Nat → Option View
  | [] => some view
  | position :: path =>
      match view.children[position]? with
      | some child => child.at? path
      | none => none

end View

end Polyview
