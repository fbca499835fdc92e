import Polyview.View

/-!
# Rendering styles

A style says how each kind of view is written for one platform. Rendering a tree is the same for
every style: the children of a stack are written one after another, with a separator between them,
inside what opens and closes the stack.
-/

namespace Polyview

/-- How the views of a tree are written. -/
structure Style where
  label : (content : String) → String
  field : (title value : String) → String
  /-- What stands before the first child of a stack. -/
  opening : String
  /-- What stands between two children of a stack. -/
  separator : String
  /-- What stands after the last child of a stack. -/
  closing : String
  description : (text : String) → List StateVariable → String
  /-- The document around a rendered view that is not a description. -/
  page : (appName fragment : String) → String
  /-- The document around a rendered description. -/
  descriptionPage : (appName fragment : String) → String

namespace View

mutual

/-- A tree written in a style, with the texts that its fields show now. -/
def render (style : Style) (store : Store) : View → String
  | .label content => style.label content
  | .field title binding => style.field title (binding.read store)
  | .stack children =>
      style.opening ++ style.separator.intercalate (renderAll style store children) ++
        style.closing
  | .description text declared => style.description text declared

/-- Each tree of a list written in a style. -/
def renderAll (style : Style) (store : Store) : List View → List String
  | [] => []
  | view :: rest => view.render style store :: renderAll style store rest

end

/-- A whole document for an application whose interface is the given tree. -/
def renderPage (style : Style) (store : Store) (appName : String) (view : View) : String :=
  match view with
  | .description _ _ => style.descriptionPage appName (view.render style store)
  | .label _ | .field _ _ | .stack _ => style.page appName (view.render style store)

end View

end Polyview
