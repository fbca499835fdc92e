import Polyview.Render.Style

/-!
# Outlines

What a tree without descriptions shows: the kinds of its views, their order, and their current
texts. A rendering depends on nothing else, and a style whose parts can be told apart gives
different renderings to different outlines.
-/

namespace Polyview

/-- What a tree of labels, text fields and stacks shows. -/
inductive Outline where
  | label (content : String)
  | field (title value : String)
  | stack (children : List Outline)
  deriving Repr

namespace View

mutual

/-- What a tree shows now. Descriptions have no outline. -/
def outline? (store : Store) : View → Option Outline
  | .label content => some (.label content)
  | .field title binding => some (.field title (binding.read store))
  | .stack children => (outlineAll? store children).map .stack
  | .description _ _ => none

def outlineAll? (store : Store) : List View → Option (List Outline)
  | [] => some []
  | view :: rest => do
      let outline ← view.outline? store
      let later ← outlineAll? store rest
      return outline :: later

end

mutual

/-- Whether there are no descriptions in a tree. -/
def isPlain : View → Bool
  | .label _ | .field _ _ => true
  | .stack children => areAllPlain children
  | .description _ _ => false

def areAllPlain : List View → Bool
  | [] => true
  | view :: rest => view.isPlain && areAllPlain rest

end

mutual

theorem isSome_outline? (store : Store) : ∀ view : View,
    (view.outline? store).isSome = view.isPlain
  | .label _ | .field _ _ | .description _ _ => rfl
  | .stack children => by
      rw [outline?, isPlain, Option.isSome_map, isSome_outlineAll?]

theorem isSome_outlineAll? (store : Store) : ∀ views : List View,
    (outlineAll? store views).isSome = areAllPlain views
  | [] => rfl
  | view :: rest => by
      have first := isSome_outline? store view
      have later := isSome_outlineAll? store rest
      rw [areAllPlain, ← first, ← later, outlineAll?]
      cases view.outline? store <;> cases outlineAll? store rest <;> rfl

end

theorem exists_outline {view : View} (plain : view.isPlain = true) (store : Store) :
    ∃ outline, view.outline? store = some outline := by
  rw [← isSome_outline? store] at plain
  exact Option.isSome_iff_exists.mp plain

end View

namespace Outline

mutual

/-- An outline as a style writes it. -/
def written (style : Style) : Outline → List Char
  | .label content => (style.label content).toList
  | .field title value => (style.field title value).toList
  | .stack children =>
      style.opening.toList ++ style.separator.toList.intercalate (writtenAll style children) ++
        style.closing.toList

def writtenAll (style : Style) : List Outline → List (List Char)
  | [] => []
  | outline :: rest => outline.written style :: writtenAll style rest

end

end Outline

namespace View

variable {style : Style} {store : Store}

mutual

/-- A rendering depends on the outline only. -/
theorem toList_render : ∀ {view : View} {outline : Outline}, view.outline? store = some outline →
    (view.render style store).toList = outline.written style
  | .label content, _, isOutline => by
      cases isOutline
      rfl
  | .field title binding, _, isOutline => by
      cases isOutline
      rfl
  | .stack children, _, isOutline => by
      rw [outline?, Option.map_eq_some_iff] at isOutline
      obtain ⟨outlines, areOutlines, rfl⟩ := isOutline
      simp [render, Outline.written, toList_renderAll areOutlines]

theorem toList_renderAll : ∀ {views : List View} {outlines : List Outline},
    outlineAll? store views = some outlines →
      (renderAll style store views).map String.toList = Outline.writtenAll style outlines
  | [], _, areOutlines => by
      cases areOutlines
      rfl
  | view :: rest, _, areOutlines => by
      simp only [outlineAll?, Option.bind_eq_bind, Option.bind_eq_some_iff, Option.pure_def,
        Option.some.injEq] at areOutlines
      obtain ⟨outline, isOutline, later, areLater, rfl⟩ := areOutlines
      simp [renderAll, Outline.writtenAll, toList_render isOutline, toList_renderAll areLater]

end

end View

/-- A style whose parts can be told apart, each at its first character that differs, and whose texts
can be told from what follows them, as long as the texts in its fields are readable. -/
structure Style.IsClearFor (readable : String → Prop) (style : Style) : Prop where
  label : ∀ {content other : String} {rest otherRest : List Char},
    (style.label content).toList ++ rest = (style.label other).toList ++ otherRest →
      content = other ∧ rest = otherRest
  field : ∀ {title otherTitle value otherValue : String} {rest otherRest : List Char},
    readable value → readable otherValue →
    (style.field title value).toList ++ rest =
      (style.field otherTitle otherValue).toList ++ otherRest →
        title = otherTitle ∧ value = otherValue ∧ rest = otherRest
  label_ne_field : ∀ {content title value : String} {rest otherRest : List Char},
    (style.label content).toList ++ rest ≠ (style.field title value).toList ++ otherRest
  label_ne_opening : ∀ {content : String} {rest otherRest : List Char},
    (style.label content).toList ++ rest ≠ style.opening.toList ++ otherRest
  field_ne_opening : ∀ {title value : String} {rest otherRest : List Char},
    (style.field title value).toList ++ rest ≠ style.opening.toList ++ otherRest
  /-- The end of a stack is no first child. -/
  closing_ne_child : ∀ {outline : Outline} {rest otherRest : List Char},
    style.closing.toList ++ rest ≠ outline.written style ++ otherRest
  /-- The end of a stack is no further child. -/
  closing_ne_next : ∀ {outline : Outline} {rest otherRest : List Char},
    style.closing.toList ++ rest ≠
      style.separator.toList ++ (outline.written style ++ otherRest)

/-- A style in which every text can be told from what follows it. -/
abbrev Style.IsClear (style : Style) : Prop := style.IsClearFor fun _ => True

namespace Outline

mutual

/-- The texts in the fields of an outline, in order. -/
def values : Outline → List String
  | .label _ => []
  | .field _ value => [value]
  | .stack children => valuesAll children

def valuesAll : List Outline → List String
  | [] => []
  | outline :: rest => outline.values ++ valuesAll rest

end

variable {style : Style} {readable : String → Prop}

theorem written_stack (children : List Outline) (rest : List Char) :
    (stack children).written style ++ rest = style.opening.toList ++
      (style.separator.toList.intercalate (writtenAll style children) ++
        (style.closing.toList ++ rest)) := by
  simp [written]

theorem intercalate_writtenAll_singleton (outline : Outline) (rest : List Char) :
    style.separator.toList.intercalate (writtenAll style [outline]) ++ rest =
      outline.written style ++ rest := by
  simp [writtenAll]

theorem intercalate_writtenAll_cons (outline next : Outline) (later : List Outline)
    (rest : List Char) :
    style.separator.toList.intercalate (writtenAll style (outline :: next :: later)) ++ rest =
      outline.written style ++ (style.separator.toList ++
        (style.separator.toList.intercalate (writtenAll style (next :: later)) ++ rest)) := by
  simp [writtenAll]

theorem exists_written_append (outline : Outline) (later : List Outline) (rest : List Char) :
    ∃ beyond, style.separator.toList.intercalate (writtenAll style (outline :: later)) ++ rest =
      outline.written style ++ beyond := by
  cases later with
  | nil => exact ⟨_, intercalate_writtenAll_singleton outline rest⟩
  | cons next later => exact ⟨_, intercalate_writtenAll_cons outline next later rest⟩

mutual

/-- What a clear style writes determines the outline, and where it ends in a longer text. -/
theorem written_append_injective (clear : style.IsClearFor readable) : ∀ {outline other : Outline}
    {rest otherRest : List Char},
    (∀ value ∈ outline.values, readable value) → (∀ value ∈ other.values, readable value) →
    outline.written style ++ rest = other.written style ++ otherRest →
      outline = other ∧ rest = otherRest
  | .label _, .label _, _, _, _, _, same => by
      obtain ⟨rfl, rfl⟩ := clear.label same
      exact ⟨rfl, rfl⟩
  | .field _ value, .field _ otherValue, _, _, legible, otherLegible, same => by
      have isReadable : readable value := legible value (by simp [values])
      have isOtherReadable : readable otherValue := otherLegible otherValue (by simp [values])
      obtain ⟨rfl, rfl, rfl⟩ := clear.field isReadable isOtherReadable same
      exact ⟨rfl, rfl⟩
  | .stack _, .stack _, _, _, legible, otherLegible, same => by
      rw [written_stack, written_stack] at same
      obtain ⟨rfl, rfl⟩ := writtenAll_append_injective clear legible otherLegible
        (List.append_cancel_left same)
      exact ⟨rfl, rfl⟩
  | .label _, .field _ _, _, _, _, _, same => absurd same clear.label_ne_field
  | .field _ _, .label _, _, _, _, _, same => absurd same.symm clear.label_ne_field
  | .label _, .stack _, _, _, _, _, same =>
      absurd (same.trans (written_stack _ _)) clear.label_ne_opening
  | .stack _, .label _, _, _, _, _, same =>
      absurd (same.symm.trans (written_stack _ _)) clear.label_ne_opening
  | .field _ _, .stack _, _, _, _, _, same =>
      absurd (same.trans (written_stack _ _)) clear.field_ne_opening
  | .stack _, .field _ _, _, _, _, _, same =>
      absurd (same.symm.trans (written_stack _ _)) clear.field_ne_opening

theorem writtenAll_append_injective (clear : style.IsClearFor readable) :
    ∀ {children others : List Outline} {rest otherRest : List Char},
    (∀ value ∈ valuesAll children, readable value) →
    (∀ value ∈ valuesAll others, readable value) →
    style.separator.toList.intercalate (writtenAll style children) ++
        (style.closing.toList ++ rest) =
      style.separator.toList.intercalate (writtenAll style others) ++
        (style.closing.toList ++ otherRest) →
      children = others ∧ rest = otherRest
  | [], [], _, _, _, _, same => ⟨rfl, List.append_cancel_left same⟩
  | [], other :: others, _, _, _, _, same => by
      obtain ⟨beyond, whole⟩ := exists_written_append other others _
      exact absurd (same.trans whole) clear.closing_ne_child
  | outline :: later, [], _, _, _, _, same => by
      obtain ⟨beyond, whole⟩ := exists_written_append outline later _
      exact absurd (same.symm.trans whole) clear.closing_ne_child
  | outline :: later, other :: others, _, _, legible, otherLegible, same => by
      rw [valuesAll, List.forall_mem_append] at legible otherLegible
      match later, others with
      | [], [] =>
          rw [intercalate_writtenAll_singleton, intercalate_writtenAll_singleton] at same
          obtain ⟨rfl, ending⟩ :=
            written_append_injective clear legible.1 otherLegible.1 same
          exact ⟨rfl, List.append_cancel_left ending⟩
      | [], next :: others =>
          rw [intercalate_writtenAll_singleton, intercalate_writtenAll_cons] at same
          obtain ⟨rfl, ending⟩ :=
            written_append_injective clear legible.1 otherLegible.1 same
          obtain ⟨beyond, whole⟩ := exists_written_append next others _
          rw [whole] at ending
          exact absurd ending clear.closing_ne_next
      | next :: later, [] =>
          rw [intercalate_writtenAll_singleton, intercalate_writtenAll_cons] at same
          obtain ⟨rfl, ending⟩ :=
            written_append_injective clear legible.1 otherLegible.1 same
          obtain ⟨beyond, whole⟩ := exists_written_append next later _
          rw [whole] at ending
          exact absurd ending.symm clear.closing_ne_next
      | next :: later, otherNext :: others =>
          rw [intercalate_writtenAll_cons, intercalate_writtenAll_cons] at same
          obtain ⟨rfl, further⟩ :=
            written_append_injective clear legible.1 otherLegible.1 same
          obtain ⟨rest, ending⟩ := writtenAll_append_injective clear legible.2 otherLegible.2
            (List.append_cancel_left further)
          exact ⟨by rw [rest], ending⟩

end

end Outline

namespace View

mutual

/-- The texts that the fields of a tree show now, in order. -/
def fieldTexts (store : Store) : View → List String
  | .field _ binding => [binding.read store]
  | .stack children => fieldTextsAll store children
  | .label _ | .description _ _ => []

def fieldTextsAll (store : Store) : List View → List String
  | [] => []
  | view :: rest => view.fieldTexts store ++ fieldTextsAll store rest

end

mutual

theorem values_outline? {store : Store} : ∀ {view : View} {outline : Outline},
    view.outline? store = some outline → outline.values = view.fieldTexts store
  | .label _, _, isOutline => by
      cases isOutline
      rfl
  | .field _ _, _, isOutline => by
      cases isOutline
      rfl
  | .stack children, _, isOutline => by
      rw [outline?, Option.map_eq_some_iff] at isOutline
      obtain ⟨outlines, areOutlines, rfl⟩ := isOutline
      exact valuesAll_outlineAll? areOutlines

theorem valuesAll_outlineAll? {store : Store} : ∀ {views : List View} {outlines : List Outline},
    outlineAll? store views = some outlines → Outline.valuesAll outlines = fieldTextsAll store views
  | [], _, areOutlines => by
      cases areOutlines
      rfl
  | view :: rest, _, areOutlines => by
      simp only [outlineAll?, Option.bind_eq_bind, Option.bind_eq_some_iff, Option.pure_def,
        Option.some.injEq] at areOutlines
      obtain ⟨outline, isOutline, later, areLater, rfl⟩ := areOutlines
      rw [Outline.valuesAll, fieldTextsAll, values_outline? isOutline,
        valuesAll_outlineAll? areLater]

end

variable {readable : String → Prop} {style : Style} {store otherStore : Store} {view other : View}

/-- Renderings in a clear style tell trees with different outlines apart, if the texts in their
fields are readable. -/
theorem outline?_eq_of_render_eq_of_readable (clear : style.IsClearFor readable)
    (plain : view.isPlain = true) (otherPlain : other.isPlain = true)
    (legible : ∀ text ∈ view.fieldTexts store, readable text)
    (otherLegible : ∀ text ∈ other.fieldTexts otherStore, readable text)
    (same : view.render style store = other.render style otherStore) :
    view.outline? store = other.outline? otherStore := by
  obtain ⟨outline, isOutline⟩ := exists_outline plain store
  obtain ⟨otherOutline, isOther⟩ := exists_outline otherPlain otherStore
  have written : outline.written style ++ [] = otherOutline.written style ++ [] := by
    rw [← toList_render isOutline, ← toList_render isOther, same]
  rw [← values_outline? isOutline] at legible
  rw [← values_outline? isOther] at otherLegible
  obtain ⟨rfl, -⟩ := Outline.written_append_injective clear legible otherLegible written
  rw [isOutline, isOther]

/-- Renderings in a clear style tell trees with different outlines apart. -/
theorem outline?_eq_of_render_eq (clear : style.IsClear) (plain : view.isPlain = true)
    (otherPlain : other.isPlain = true)
    (same : view.render style store = other.render style otherStore) :
    view.outline? store = other.outline? otherStore :=
  outline?_eq_of_render_eq_of_readable clear plain otherPlain (fun _ _ => trivial)
    (fun _ _ => trivial) same

end View

end Polyview
