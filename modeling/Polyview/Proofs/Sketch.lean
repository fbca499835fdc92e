import Polyview.Render.Style

/-!
# Sketches

A sketch is a tree like a view, whose fields hold anything in place of a binding: the number of a
cell, a name, or the text that is shown. A view is a sketch that holds bindings, and what the view
shows is the sketch with the texts in their place.
-/

namespace Polyview

/-- A tree whose fields hold a value of some type. -/
inductive Sketch (α : Type) where
  | label (content : String)
  | field (title : String) (held : α)
  | stack (children : List (Sketch α))
  | description (text : String) (declared : List StateVariable)

namespace Sketch

variable {α β : Type}

mutual

/-- The sketch with other values in its fields. -/
def map (change : α → β) : Sketch α → Sketch β
  | .label content => .label content
  | .field title held => .field title (change held)
  | .stack children => .stack (mapAll change children)
  | .description text declared => .description text declared

def mapAll (change : α → β) : List (Sketch α) → List (Sketch β)
  | [] => []
  | sketch :: rest => sketch.map change :: mapAll change rest

end

mutual

/-- The view of a sketch. -/
def view (bind : α → Binding) : Sketch α → View
  | .label content => .label content
  | .field title held => .field title (bind held)
  | .stack children => .stack (viewAll bind children)
  | .description text declared => .description text declared

def viewAll (bind : α → Binding) : List (Sketch α) → List View
  | [] => []
  | sketch :: rest => sketch.view bind :: viewAll bind rest

end

mutual

/-- A sketch of texts written in a style. -/
def render (style : Style) : Sketch String → String
  | .label content => style.label content
  | .field title text => style.field title text
  | .stack children =>
      style.opening ++ style.separator.intercalate (renderAll style children) ++ style.closing
  | .description text declared => style.description text declared

def renderAll (style : Style) : List (Sketch String) → List String
  | [] => []
  | sketch :: rest => sketch.render style :: renderAll style rest

end

def children : Sketch α → List (Sketch α)
  | .stack children => children
  | _ => []

/-- The sketch at the end of a path of child positions. -/
def at? (sketch : Sketch α) : List Nat → Option (Sketch α)
  | [] => some sketch
  | position :: path =>
      match sketch.children[position]? with
      | some child => child.at? path
      | none => none

/-- What the field at the end of a path holds. -/
def held? (sketch : Sketch α) (path : List Nat) : Option α :=
  match sketch.at? path with
  | some (.field _ held) => some held
  | _ => none

mutual

theorem view_map (change : α → β) (bind : β → Binding) : ∀ sketch : Sketch α,
    (sketch.map change).view bind = sketch.view (bind ∘ change)
  | .label _ | .field _ _ | .description _ _ => rfl
  | .stack children => by simp only [map, view, viewAll_mapAll change bind children]

theorem viewAll_mapAll (change : α → β) (bind : β → Binding) : ∀ sketches : List (Sketch α),
    viewAll bind (mapAll change sketches) = viewAll (bind ∘ change) sketches
  | [] => rfl
  | sketch :: rest => by
      simp only [mapAll, viewAll, view_map change bind sketch, viewAll_mapAll change bind rest]

end

theorem viewAll_eq_map (bind : α → Binding) (sketches : List (Sketch α)) :
    viewAll bind sketches = sketches.map (view bind) := by
  induction sketches with
  | nil => rfl
  | cons sketch rest ih => rw [viewAll, ih, List.map_cons]

theorem children_view (bind : α → Binding) (sketch : Sketch α) :
    (sketch.view bind).children = sketch.children.map (view bind) := by
  cases sketch with
  | stack children => exact viewAll_eq_map bind children
  | label | field | description => rfl

theorem at?_append (path further : List Nat) (sketch : Sketch α) :
    sketch.at? (path ++ further) = (sketch.at? path).bind fun found => found.at? further := by
  induction path generalizing sketch with
  | nil => simp [at?]
  | cons position path ih =>
      rw [List.cons_append, at?, at?]
      cases sketch.children[position]? with
      | none => rfl
      | some child => exact ih child

@[simp]
theorem held?_label (content : String) (path : List Nat) :
    (label content : Sketch α).held? path = none := by
  cases path <;> rfl

@[simp]
theorem held?_description (text : String) (declared : List StateVariable) (path : List Nat) :
    (description text declared : Sketch α).held? path = none := by
  cases path <;> rfl

theorem held?_field (title : String) (held : α) (path : List Nat) :
    (field title held).held? path = if path = [] then some held else none := by
  cases path <;> rfl

theorem held?_append (path further : List Nat) (sketch : Sketch α) :
    sketch.held? (path ++ further) = (sketch.at? path).bind fun found => found.held? further := by
  rw [held?, at?_append]
  cases sketch.at? path <;> rfl

theorem held?_cons (position : Nat) (path : List Nat) (sketch : Sketch α) :
    sketch.held? (position :: path) =
      sketch.children[position]?.bind fun child => child.held? path := by
  rw [held?, at?]
  cases sketch.children[position]? <;> rfl

theorem at?_view (bind : α → Binding) (path : List Nat) (sketch : Sketch α) :
    (sketch.view bind).at? path = (sketch.at? path).map (view bind) := by
  induction path generalizing sketch with
  | nil => simp [at?, View.at?]
  | cons position path ih =>
      rw [at?, View.at?, children_view, List.getElem?_map]
      cases sketch.children[position]? with
      | none => rfl
      | some child => exact ih child

theorem mapAll_eq_map (change : α → β) (sketches : List (Sketch α)) :
    mapAll change sketches = sketches.map (map change) := by
  induction sketches with
  | nil => rfl
  | cons sketch rest ih => rw [mapAll, ih, List.map_cons]

theorem children_map (change : α → β) (sketch : Sketch α) :
    (sketch.map change).children = sketch.children.map (map change) := by
  cases sketch with
  | stack children => exact mapAll_eq_map change children
  | label | field | description => rfl

theorem held?_map (change : α → β) (path : List Nat) (sketch : Sketch α) :
    (sketch.map change).held? path = (sketch.held? path).map change := by
  induction path generalizing sketch with
  | nil => cases sketch <;> rfl
  | cons position path ih =>
      rw [held?_cons, held?_cons, children_map, List.getElem?_map]
      cases sketch.children[position]? with
      | none => rfl
      | some child => exact ih child

mutual

/-- Only what the fields hold matters. -/
theorem map_congr {change other : α → β} : ∀ {sketch : Sketch α},
    (∀ path held, sketch.held? path = some held → change held = other held) →
      sketch.map change = sketch.map other
  | .label _, _ | .description _ _, _ => rfl
  | .field title held, agree => by rw [map, map, agree [] held rfl]
  | .stack children, agree => by
      rw [map, map, mapAll_congr]
      intro position child isChild path held isHeld
      apply agree (position :: path) held
      rw [held?_cons]
      exact Option.bind_eq_some_iff.mpr ⟨child, isChild, isHeld⟩

theorem mapAll_congr {change other : α → β} : ∀ {sketches : List (Sketch α)},
    (∀ (position : Nat) sketch, sketches[position]? = some sketch →
      ∀ path held, sketch.held? path = some held → change held = other held) →
      mapAll change sketches = mapAll other sketches
  | [], _ => rfl
  | sketch :: rest, agree => by
      rw [mapAll, mapAll, map_congr (agree 0 sketch rfl),
        mapAll_congr fun position => agree (position + 1)]

end

end Sketch

namespace View

/-- The binding of the field at the end of a path. -/
def binding? (view : View) (path : List Nat) : Option Binding :=
  match view.at? path with
  | some (.field _ binding) => some binding
  | _ => none

mutual

/-- What a view shows now. -/
def shown (store : Store) : View → Sketch String
  | .label content => .label content
  | .field title binding => .field title (binding.read store)
  | .stack children => .stack (shownAll store children)
  | .description text declared => .description text declared

def shownAll (store : Store) : List View → List (Sketch String)
  | [] => []
  | view :: rest => view.shown store :: shownAll store rest

end

mutual

/-- A rendering depends on what the view shows only. -/
theorem render_shown (style : Style) (store : Store) : ∀ view : View,
    (view.shown store).render style = view.render style store
  | .label _ | .field _ _ | .description _ _ => rfl
  | .stack children => by
      rw [shown, Sketch.render, render, renderAll_shownAll style store children]

theorem renderAll_shownAll (style : Style) (store : Store) : ∀ views : List View,
    Sketch.renderAll style (shownAll store views) = renderAll style store views
  | [] => rfl
  | view :: rest => by
      rw [shownAll, Sketch.renderAll, renderAll, render_shown style store view,
        renderAll_shownAll style store rest]

end

end View

namespace Sketch

variable {α : Type}

theorem binding?_view (bind : α → Binding) (path : List Nat) (sketch : Sketch α) :
    (sketch.view bind).binding? path = (sketch.held? path).map bind := by
  rw [View.binding?, at?_view, held?]
  cases sketch.at? path with
  | none => rfl
  | some found => cases found <;> rfl

mutual

/-- The view of a sketch shows what its bindings read. -/
theorem shown_view (bind : α → Binding) (store : Store) : ∀ sketch : Sketch α,
    (sketch.view bind).shown store = sketch.map fun held => (bind held).read store
  | .label _ | .field _ _ | .description _ _ => rfl
  | .stack children => by
      rw [view, View.shown, map, shownAll_viewAll bind store children]

theorem shownAll_viewAll (bind : α → Binding) (store : Store) : ∀ sketches : List (Sketch α),
    View.shownAll store (viewAll bind sketches) =
      mapAll (fun held => (bind held).read store) sketches
  | [] => rfl
  | sketch :: rest => by
      rw [viewAll, View.shownAll, mapAll, shown_view bind store sketch,
        shownAll_viewAll bind store rest]

end

end Sketch

end Polyview
