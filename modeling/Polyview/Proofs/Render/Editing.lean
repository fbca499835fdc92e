import Polyview.Render.Target

/-!
# Editing a part of a tree

A tree with a place for a view writes what lies around the place before and behind it, and the view
that is put there in between. So an edit changes one stretch of the rendering, and views of which
none holds the other have stretches of their own, in the order of their paths.
-/

namespace Polyview

namespace View

/-- The tree with another view at the end of a path. A path that leads out of the tree changes
nothing. -/
def replaceAt : View → List Nat → View → View
  | _, [], new => new
  | .stack children, position :: path, new =>
      .stack (children.modify position fun child => child.replaceAt path new)
  | view, _ :: _, _ => view

end View

/-- The rest of a tree around a place for a view. -/
inductive Surroundings where
  /-- The place is the whole tree. -/
  | here
  /-- The place lies inside one child of a stack. -/
  | inside (before : List View) (inner : Surroundings) (after : List View)

namespace Surroundings

/-- The tree with a view in the place. -/
def fill : Surroundings → View → View
  | .here, view => view
  | .inside before inner after, view => .stack (before ++ inner.fill view :: after)

/-- The path that leads to the place. -/
def path : Surroundings → List Nat
  | .here => []
  | .inside before inner _ => before.length :: inner.path

/-! ## The place of a view -/

theorem exists_of_at? {view held : View} {path : List Nat} (leads : view.at? path = some held) :
    ∃ rest : Surroundings, rest.path = path ∧ rest.fill held = view := by
  induction path generalizing view with
  | nil => exact ⟨.here, rfl, (Option.some.inj leads).symm⟩
  | cons position path ih =>
      cases view with
      | label | field | description => simp [View.at?, View.children] at leads
      | stack children =>
          rw [View.at?, View.children] at leads
          cases found : children[position]? with
          | none => simp [found] at leads
          | some child =>
              rw [found] at leads
              obtain ⟨inner, innerPath, innerFill⟩ := ih leads
              obtain ⟨inRange, isChild⟩ := List.getElem?_eq_some_iff.mp found
              refine ⟨.inside (children.take position) inner (children.drop (position + 1)), ?_, ?_⟩
              · rw [Surroundings.path, innerPath, List.length_take_of_le (Nat.le_of_lt inRange)]
              · rw [fill, innerFill, ← isChild, ← List.drop_eq_getElem_cons inRange,
                  List.take_append_drop]

theorem replaceAt_fill (rest : Surroundings) (held new : View) :
    (rest.fill held).replaceAt rest.path new = rest.fill new := by
  induction rest with
  | here => rfl
  | inside before inner after ih =>
      rw [fill, path, View.replaceAt, fill, ← ih]
      simp [List.modify_eq_take_cons_drop]

variable (style : Style) (store : Store)

/-! ## Stretches of a rendering -/

/-- Views with a separator behind each. -/
def writtenBefore (views : List View) : String :=
  String.join (views.map fun view => view.render style store ++ style.separator)

/-- Views with a separator before each. -/
def writtenAfter (views : List View) : String :=
  String.join (views.map fun view => style.separator ++ view.render style store)

/-- What is written before the view in the place. -/
def lead : Surroundings → String
  | .here => ""
  | .inside before inner _ => style.opening ++ writtenBefore style store before ++ inner.lead

/-- What is written after the view in the place. -/
def trail : Surroundings → String
  | .here => ""
  | .inside _ inner after => inner.trail ++ writtenAfter style store after ++ style.closing

theorem writtenBefore_append (views more : List View) :
    writtenBefore style store (views ++ more) =
      writtenBefore style store views ++ writtenBefore style store more := by
  rw [writtenBefore, List.map_append, String.join_append]
  rfl

theorem writtenBefore_cons (view : View) (views : List View) :
    writtenBefore style store (view :: views) =
      view.render style store ++ style.separator ++ writtenBefore style store views := by
  rw [writtenBefore, List.map_cons, String.join_cons]
  rfl

theorem writtenAfter_cons (view : View) (views : List View) :
    writtenAfter style store (view :: views) =
      style.separator ++ view.render style store ++ writtenAfter style store views := by
  rw [writtenAfter, List.map_cons, String.join_cons]
  rfl

theorem intercalate_renderAll_cons (view : View) (after : List View) :
    style.separator.intercalate (View.renderAll style store (view :: after)) =
      view.render style store ++ writtenAfter style store after := by
  induction after generalizing view with
  | nil => simp [View.renderAll, writtenAfter]
  | cons next after ih =>
      have later := ih next
      rw [View.renderAll] at later ⊢
      rw [View.renderAll, String.intercalate_cons_cons, later, writtenAfter_cons]
      simp only [String.append_assoc]

/-- A child of a stack is written between its siblings. -/
theorem intercalate_renderAll (before : List View) (view : View) (after : List View) :
    style.separator.intercalate (View.renderAll style store (before ++ view :: after)) =
      writtenBefore style store before ++ view.render style store ++
        writtenAfter style store after := by
  induction before with
  | nil =>
      rw [List.nil_append, intercalate_renderAll_cons]
      simp [writtenBefore]
  | cons first before ih =>
      have goesOn : View.renderAll style store (before ++ view :: after) ≠ [] := by
        cases before <;> simp [View.renderAll]
      rw [List.cons_append, View.renderAll, String.intercalate_cons_of_ne_nil goesOn, ih,
        writtenBefore_cons]
      simp only [String.append_assoc]

/-- The rendering of a tree is that of the view in a place, between what is written around it. -/
theorem render_fill (rest : Surroundings) (view : View) :
    (rest.fill view).render style store =
      rest.lead style store ++ view.render style store ++ rest.trail style store := by
  induction rest with
  | here => simp [fill, lead, trail]
  | inside before inner after ih =>
      rw [fill, View.render, intercalate_renderAll, ih, lead, trail]
      simp only [String.append_assoc]

/-! ## Two places -/

/-- Of two children in a list, the later one and what is between them stand behind the first. -/
theorem exists_middle {before after otherBefore otherAfter : List View} {view other : View}
    (same : before ++ view :: after = otherBefore ++ other :: otherAfter)
    (order : before.length < otherBefore.length) :
    ∃ middle, otherBefore = before ++ view :: middle ∧ after = middle ++ other :: otherAfter := by
  rcases List.append_eq_append_iff.mp same with ⟨more, rfl, behind⟩ | ⟨more, rfl, -⟩
  · cases more with
    | nil => simp at order
    | cons first middle =>
        obtain ⟨rfl, rfl⟩ := List.cons.inj behind
        exact ⟨middle, rfl, rfl⟩
  · rw [List.length_append] at order
    omega

/-- In a later child, the view in a place of an earlier child has been written before, and behind it
what is between the two places. -/
theorem lead_laterChild (before middle after laterAfter : List View) (inner later : Surroundings)
    (view : View) :
    (inside (before ++ inner.fill view :: middle) later laterAfter).lead style store =
      (inside before inner after).lead style store ++ view.render style store ++
        (inner.trail style store ++ style.separator ++ writtenBefore style store middle ++
          later.lead style store) := by
  rw [lead, lead, writtenBefore_append, writtenBefore_cons, render_fill]
  simp only [String.append_assoc]

/-- A view that lies behind another one in a tree has the same path, and the same written behind
it, after the other one has been replaced. The replacement stands before it, and between the two
stands what stood there before. -/
theorem exists_edited {first second : Surroundings} {held other : View}
    (same : first.fill held = second.fill other) (order : first.path < second.path)
    (apart : ¬ first.path <+: second.path) :
    ∃ between : String,
      second.lead style store =
        first.lead style store ++ held.render style store ++ between ∧
      ∀ new : View, ∃ edited : Surroundings,
        edited.path = second.path ∧ edited.fill other = first.fill new ∧
          edited.lead style store =
            first.lead style store ++ new.render style store ++ between ∧
          edited.trail style store = second.trail style store := by
  induction first generalizing second with
  | here => exact absurd List.nil_prefix apart
  | inside before inner after ih =>
      cases second with
      | here => exact absurd order (List.not_lt_nil _)
      | inside otherBefore otherInner otherAfter =>
          rw [fill, fill, View.stack.injEq] at same
          rw [path, path] at order apart
          rcases List.cons_lt_cons_iff.mp order with earlier | ⟨sameLength, laterOrder⟩
          · -- the paths part here, so the second place lies in a later child
            obtain ⟨middle, rfl, rfl⟩ := exists_middle same earlier
            refine ⟨_, lead_laterChild style store before middle _ otherAfter inner otherInner held,
              fun new => ?_⟩
            refine ⟨.inside (before ++ inner.fill new :: middle) otherInner otherAfter, ?_, ?_,
              lead_laterChild style store before middle _ otherAfter inner otherInner new, rfl⟩
            · simp [path]
            · simp [fill]
          · -- both places lie in the same child
            obtain ⟨rfl, behind⟩ := List.append_inj same sameLength
            obtain ⟨sameChild, rfl⟩ := List.cons.inj behind
            have laterApart : ¬ inner.path <+: otherInner.path := fun isPrefix =>
              apart (List.cons_prefix_cons.mpr ⟨rfl, isPrefix⟩)
            obtain ⟨between, leads, edits⟩ := ih sameChild laterOrder laterApart
            refine ⟨between, ?_, fun new => ?_⟩
            · rw [lead, lead, leads]
              simp only [String.append_assoc]
            · obtain ⟨edited, editedPath, editedFill, editedLead, editedTrail⟩ := edits new
              refine ⟨.inside before edited after, ?_, ?_, ?_, ?_⟩
              · rw [path, path, editedPath]
              · rw [fill, fill, editedFill]
              · rw [lead, lead, editedLead]
                simp only [String.append_assoc]
              · rw [trail, trail, editedTrail]

end Surroundings

namespace View

/-- Whatever view is put at the end of a path, the tree is written as that view between two texts
that depend on the rest of the tree alone. If neither of two paths leads through the other, then the
views at their ends are written one behind the other, in the order of the paths, whatever views are
put there. -/
theorem edit_changes_one_stretch (platform : Platform) (escape : Bool) (store : Store)
    (view : View) :
    let style := platform.style escape
    let written := fun part : View => part.render style store
    (∀ path held, view.at? path = some held →
      ∃ rest : Surroundings, rest.path = path ∧ rest.fill held = view ∧
        ∀ new, written (view.replaceAt path new) =
          rest.lead style store ++ written new ++ rest.trail style store) ∧
    ∀ first second held other, view.at? first = some held → view.at? second = some other →
      first < second → ¬ first <+: second →
      ∃ (rest otherRest : Surroundings) (between : String),
        rest.path = first ∧ rest.fill held = view ∧
        otherRest.path = second ∧ otherRest.fill other = view ∧
        otherRest.lead style store = rest.lead style store ++ written held ++ between ∧
        ∀ new newOther, written ((view.replaceAt first new).replaceAt second newOther) =
          rest.lead style store ++ written new ++ between ++ written newOther ++
            otherRest.trail style store := by
  intro style written
  constructor
  · intro path held isThere
    obtain ⟨rest, rfl, rfl⟩ := Surroundings.exists_of_at? isThere
    refine ⟨rest, rfl, rfl, fun new => ?_⟩
    rw [Surroundings.replaceAt_fill]
    exact Surroundings.render_fill style store rest new
  · intro first second held other isThere isOtherThere order apart
    obtain ⟨rest, rfl, rfl⟩ := Surroundings.exists_of_at? isThere
    obtain ⟨otherRest, rfl, same⟩ := Surroundings.exists_of_at? isOtherThere
    obtain ⟨between, leads, edits⟩ :=
      Surroundings.exists_edited style store same.symm order apart
    refine ⟨rest, otherRest, between, rfl, rfl, rfl, same, leads, fun new newOther => ?_⟩
    obtain ⟨edited, editedPath, editedFill, editedLead, editedTrail⟩ := edits new
    rw [Surroundings.replaceAt_fill, ← editedFill, ← editedPath, Surroundings.replaceAt_fill,
      ← editedLead, ← editedTrail]
    exact Surroundings.render_fill style store edited newOther

/-- The description is written as nothing, and still has a place of its own before the field. -/
theorem edit_changes_one_stretch_of_nested_form :
    let form := View.stack [.label "a", .stack [.description "" [], .field "t" (.cell ⟨0⟩)]]
    let written := fun part : View => part.render (Platform.windows.style true) ⟨["x"], []⟩
    form.at? [1, 0] = some (.description "" []) ∧
      form.at? [1, 1] = some (.field "t" (.cell ⟨0⟩)) ∧
      [1, 0] < [1, 1] ∧ ¬ [1, 0] <+: [1, 1] ∧
      (∃ before after, ∀ new,
        written (form.replaceAt [1, 1] new) = before ++ written new ++ after) ∧
      ∃ before between after, ∀ new newOther,
        written ((form.replaceAt [1, 0] new).replaceAt [1, 1] newOther) =
          before ++ written new ++ between ++ written newOther ++ after := by
  intro form written
  have order : [1, 0] < [1, 1] := by decide
  have apart : ¬ [1, 0] <+: [1, 1] := by decide
  obtain ⟨onePlace, twoPlaces⟩ :=
    edit_changes_one_stretch .windows true ⟨["x"], []⟩ form
  obtain ⟨around, -, -, edited⟩ := onePlace [1, 1] _ rfl
  obtain ⟨rest, otherRest, between, -, -, -, -, -, bothEdited⟩ :=
    twoPlaces [1, 0] [1, 1] _ _ rfl rfl order apart
  exact ⟨rfl, rfl, order, apart, ⟨_, _, edited⟩, ⟨_, between, _, bothEdited⟩⟩

end View

end Polyview
