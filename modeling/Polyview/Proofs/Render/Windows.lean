import Mathlib.Data.List.Forall2
import Polyview.Proofs.Markup.Reader
import Polyview.Proofs.Render.Outline
import Polyview.Render.Windows

/-!
# Escaped markup for Windows

The escaped markup for a tree is read as one element for each view, with the children of a stack in
order. What a view shows can be told from the attributes of its element.
-/

namespace Polyview.Render.Windows

open Markup

/-! ## Elements -/

/-- A value as an attribute says it, with the guard that it may need. -/
def guarded (value : String) : String := String.ofList (guard value.toList ++ value.toList)

/-- A binding extension whose path says a value. -/
def bindingFor (value : String) : String :=
  "\x7bBinding " ++ String.ofList (marked value.toList) ++ "\x7d"

mutual

/-- The element that an outline is written as. -/
def elementOf : Outline → Element
  | .label content => .mk "TextBlock" [("Text", guarded content)] []
  | .field title value =>
      .mk "TextBox" [("Text", bindingFor value), ("PlaceholderText", guarded title)] []
  | .stack children => .mk "StackPanel" [("Orientation", "Vertical")] (elementsOf children)

def elementsOf : List Outline → List Element
  | [] => []
  | outline :: rest => elementOf outline :: elementsOf rest

end

theorem guarded_injective {value other : String} (same : guarded value = guarded other) :
    value = other := by
  have texts := String.ofList_injective same
  rw [← String.toList_inj, ← unguarded_guard value.toList, texts, unguarded_guard]

theorem bindingFor_injective {value other : String} (same : bindingFor value = bindingFor other) :
    value = other := by
  have texts : marked value.toList = marked other.toList := by
    have lists := congrArg String.toList same
    simpa [bindingFor] using lists
  rw [← String.toList_inj, ← unmarked_marked value.toList, texts, unmarked_marked]

mutual

theorem elementOf_injective : ∀ {outline other : Outline}, elementOf outline = elementOf other →
    outline = other
  | .label _, .label _, same => by
      have texts := (List.cons.inj (Element.mk.inj same).2.1).1
      rw [guarded_injective (Prod.mk.inj texts).2]
  | .field _ _, .field _ _, same => by
      obtain ⟨value, others⟩ := List.cons.inj (Element.mk.inj same).2.1
      have title := (List.cons.inj others).1
      rw [bindingFor_injective (Prod.mk.inj value).2, guarded_injective (Prod.mk.inj title).2]
  | .stack _, .stack _, same => by
      rw [elementsOf_injective (Element.mk.inj same).2.2]
  | .label _, .field _ _, same => by simp [elementOf] at same
  | .label _, .stack _, same => by simp [elementOf] at same
  | .field _ _, .label _, same => by simp [elementOf] at same
  | .field _ _, .stack _, same => by simp [elementOf] at same
  | .stack _, .label _, same => by simp [elementOf] at same
  | .stack _, .field _ _, same => by simp [elementOf] at same

theorem elementsOf_injective : ∀ {outlines others : List Outline},
    elementsOf outlines = elementsOf others → outlines = others
  | [], [], _ => rfl
  | [], _ :: _, same => by simp [elementsOf] at same
  | _ :: _, [], same => by simp [elementsOf] at same
  | _ :: _, _ :: _, same => by
      obtain ⟨first, later⟩ := List.cons.inj same
      rw [elementOf_injective first, elementsOf_injective later]

end

/-! ## Mirroring -/

/-- An element that shows an outline: one for each view, with the content of a label and the title
of a field in an attribute that may have a guard, and with a binding for the value of a field. -/
inductive Mirrors : Outline → Element → Prop where
  | label {content text : String}
      (isContent : String.ofList (unguarded text.toList) = content) :
      Mirrors (.label content) (.mk "TextBlock" [("Text", text)] [])
  | field {title value path text : String}
      (isTitle : String.ofList (unguarded text.toList) = title) :
      Mirrors (.field title value)
        (.mk "TextBox" [("Text", "\x7bBinding " ++ path ++ "\x7d"), ("PlaceholderText", text)] [])
  | stack {children : List Outline} {elements : List Element}
      (mirrored : List.Forall₂ Mirrors children elements) :
      Mirrors (.stack children) (.mk "StackPanel" [("Orientation", "Vertical")] elements)

theorem unguarded_guarded (value : String) :
    String.ofList (unguarded (guarded value).toList) = value := by
  simp [guarded, unguarded_guard]

mutual

theorem mirrors_elementOf : ∀ outline : Outline, Mirrors outline (elementOf outline)
  | .label content => .label (unguarded_guarded content)
  | .field title _ => .field (unguarded_guarded title)
  | .stack children => .stack (mirrors_elementsOf children)

theorem mirrors_elementsOf : ∀ outlines : List Outline,
    List.Forall₂ Mirrors outlines (elementsOf outlines)
  | [] => .nil
  | outline :: rest => .cons (mirrors_elementOf outline) (mirrors_elementsOf rest)

end

/-! ## Tags -/

theorem toList_label (content : String) (rest : List Char) :
    ((style true).label content).toList ++ rest =
      '<' :: ("TextBlock".toList ++ (writtenAttribute "Text" (attributeText content).toList ++
        ' ' :: '/' :: '>' :: rest)) := by
  have written : (style true).label content =
      "<TextBlock Text=\"" ++ attributeText content ++ "\" />" := rfl
  rw [written]
  simp only [String.toList_append, String.reduceToList, writtenAttribute, List.append_assoc,
    List.cons_append, List.nil_append]

theorem toList_field (title value : String) (rest : List Char) :
    ((style true).field title value).toList ++ rest =
      '<' :: ("TextBox".toList ++
        (writtenAttribute "Text"
          ("\x7bBinding ".toList ++ ((pathText value).toList ++ ['\x7d'])) ++
        (writtenAttribute "PlaceholderText" (attributeText title).toList ++
          ' ' :: '/' :: '>' :: rest))) := by
  have written : (style true).field title value =
      "<TextBox Text=\"\x7bBinding " ++ pathText value ++ "\x7d\" PlaceholderText=\"" ++
        attributeText title ++ "\" />" := rfl
  rw [written]
  simp only [String.toList_append, String.reduceToList, writtenAttribute, List.append_assoc,
    List.cons_append, List.nil_append]

theorem toList_opening (rest : List Char) :
    (style true).opening.toList ++ rest =
      '<' :: ("StackPanel".toList ++ (writtenAttribute "Orientation" "Vertical".toList ++
        '>' :: '\n' :: ' ' :: ' ' :: ' ' :: ' ' :: rest)) := by
  have written : (style true).opening = "<StackPanel Orientation=\"Vertical\">\n    " := rfl
  rw [written]
  simp only [String.reduceToList, writtenAttribute, List.cons_append, List.nil_append]

theorem toList_separator : (style true).separator.toList = ['\n'] := rfl

theorem toList_closing (rest : List Char) :
    (style true).closing.toList ++ rest =
      '\n' :: '<' :: '/' :: ("StackPanel".toList ++ '>' :: rest) := by
  have written : (style true).closing = "\n</StackPanel>" := rfl
  rw [written]
  simp only [String.reduceToList, List.cons_append, List.nil_append]

/-! ## Reading -/

theorem decodes_guarded (value : String) :
    Decodes '"' (attributeText value).toList (guarded value).toList := by
  rw [guarded, String.toList_ofList]
  exact decodes_attributeText value

theorem decodes_bindingFor (value : String) :
    Decodes '"' ("\x7bBinding ".toList ++ ((pathText value).toList ++ ['\x7d']))
      (bindingFor value).toList := by
  have start : Decodes '"' "\x7bBinding ".toList "\x7bBinding ".toList := .ofLiteral (by decide)
  have ending : Decodes '"' ['\x7d'] ['\x7d'] := .ofLiteral (by decide)
  have whole := start.append ((decodes_pathText value).append ending)
  simpa [bindingFor] using whole

theorem readTag_label (content : String) (rest : List Char) :
    readTag (((style true).label content).toList ++ rest) =
      some ("TextBlock", [("Text", guarded content)], true, rest) := by
  have text (fuel : Nat) := readAttributes_append (show isName "Text".toList = true by decide)
    (decodes_guarded content) fuel (' ' :: '/' :: '>' :: rest)
  rw [writtenAttribute, List.cons_append] at text
  rw [toList_label, writtenAttribute, List.cons_append, readTag_append (by decide) (by decide),
    text, readAttributes_empty]
  rfl

theorem readTag_field (title value : String) (rest : List Char) :
    readTag (((style true).field title value).toList ++ rest) =
      some ("TextBox", [("Text", bindingFor value), ("PlaceholderText", guarded title)], true,
        rest) := by
  have placeholder (fuel : Nat) := readAttributes_append
    (show isName "PlaceholderText".toList = true by decide) (decodes_guarded title) fuel
    (' ' :: '/' :: '>' :: rest)
  have text (fuel : Nat) := readAttributes_append (show isName "Text".toList = true by decide)
    (decodes_bindingFor value) (fuel + 1)
    (writtenAttribute "PlaceholderText" (attributeText title).toList ++ ' ' :: '/' :: '>' :: rest)
  rw [writtenAttribute, List.cons_append] at text
  rw [toList_field, writtenAttribute, List.cons_append, readTag_append (by decide) (by decide)]
  -- The two attributes take at least as many characters.
  generalize fuelIs : ("Text".toList ++ '=' :: '"' :: _ ++ _).length + 1 = fuel
  obtain ⟨fuel, rfl⟩ : ∃ less, fuel = less + 2 := ⟨fuel - 2, by
    simp only [List.length_append, List.length_cons] at fuelIs
    omega⟩
  rw [text, placeholder, readAttributes_empty]
  rfl

theorem readTag_opening (rest : List Char) :
    readTag ((style true).opening.toList ++ rest) =
      some ("StackPanel", [("Orientation", "Vertical")], false,
        '\n' :: ' ' :: ' ' :: ' ' :: ' ' :: rest) := by
  have vertical : Decodes '"' "Vertical".toList "Vertical".toList := .ofLiteral (by decide)
  have orientation (fuel : Nat) := readAttributes_append
    (show isName "Orientation".toList = true by decide) vertical fuel
    ('>' :: '\n' :: ' ' :: ' ' :: ' ' :: ' ' :: rest)
  rw [writtenAttribute, List.cons_append] at orientation
  rw [toList_opening, writtenAttribute, List.cons_append, readTag_append (by decide) (by decide),
    orientation, readAttributes_open]
  rfl

theorem written_begins (outline : Outline) (rest : List Char) :
    ∃ c body, outline.written (style true) ++ rest = '<' :: c :: body ∧ c ≠ '/' := by
  cases outline with
  | label content =>
      rw [Outline.written, toList_label]
      simp only [String.reduceToList, List.cons_append]
      exact ⟨'T', _, rfl, by decide⟩
  | field title value =>
      rw [Outline.written, toList_field]
      simp only [String.reduceToList, List.cons_append]
      exact ⟨'T', _, rfl, by decide⟩
  | stack children =>
      rw [Outline.written_stack, toList_opening]
      simp only [String.reduceToList, List.cons_append]
      exact ⟨'S', _, rfl, by decide⟩

/-- The children of a stack as they are written, one to a line. -/
def writtenLines (children : List Outline) : List Char :=
  (style true).separator.toList.intercalate (Outline.writtenAll (style true) children)

theorem readChildren_closing (fuel : Nat) (rest : List Char) :
    readChildren (fuel + 1) (skipSpaces ((style true).closing.toList ++ rest)) =
      some ([], '<' :: '/' :: ("StackPanel".toList ++ '>' :: rest)) := by
  rw [toList_closing]
  exact readChildren_end fuel _

theorem readChildren_written {outline : Outline} {element : Element} {fuel : Nat}
    {rest : List Char}
    (read : readElement fuel (outline.written (style true) ++ rest) = some (element, rest)) :
    readChildren (fuel + 1) (skipSpaces (outline.written (style true) ++ rest)) =
      (readChildren fuel (skipSpaces rest)).map fun (later, rest) => (element :: later, rest) := by
  obtain ⟨c, body, begins, notEnd⟩ := written_begins outline rest
  rw [begins] at read ⊢
  exact readChildren_element notEnd read

theorem skipSpaces_separator (rest : List Char) :
    skipSpaces ((style true).separator.toList ++ rest) = skipSpaces rest := by
  rw [toList_separator]
  rfl

theorem length_written_pos (outline : Outline) : 0 < (outline.written (style true)).length := by
  obtain ⟨c, body, begins, -⟩ := written_begins outline []
  rw [List.append_nil] at begins
  rw [begins]
  simp

theorem writtenLines_nil : writtenLines [] = [] := by
  simp [writtenLines, Outline.writtenAll]

theorem writtenLines_singleton (outline : Outline) :
    writtenLines [outline] = outline.written (style true) := by
  simpa [writtenLines] using Outline.intercalate_writtenAll_singleton outline []

theorem writtenLines_cons (outline next : Outline) (later : List Outline) :
    writtenLines (outline :: next :: later) = outline.written (style true) ++
      ((style true).separator.toList ++ writtenLines (next :: later)) := by
  simpa [writtenLines] using Outline.intercalate_writtenAll_cons outline next later []

theorem length_writtenLines_lt (children : List Outline) :
    (writtenLines children).length + 1 <
      ((Outline.stack children).written (style true)).length := by
  have whole : (Outline.stack children).written (style true) ++ [] =
      (style true).opening.toList ++
        (writtenLines children ++ ((style true).closing.toList ++ [])) :=
    Outline.written_stack children []
  rw [List.append_nil, toList_opening] at whole
  rw [whole]
  simp only [List.length_cons, List.length_append]
  omega

mutual

/-- The markup of an outline is read as its element, whatever follows it. -/
theorem readElement_written : ∀ (outline : Outline) (fuel : Nat) (rest : List Char),
    (outline.written (style true)).length ≤ fuel →
      readElement fuel (outline.written (style true) ++ rest) = some (elementOf outline, rest)
  | .label content => by
      intro fuel rest enough
      have positive := length_written_pos (.label content)
      obtain ⟨fuel, rfl⟩ : ∃ less, fuel = less + 1 := ⟨fuel - 1, by omega⟩
      rw [Outline.written, elementOf]
      exact readElement_empty (readTag_label content rest) fuel
  | .field title value => by
      intro fuel rest enough
      have positive := length_written_pos (.field title value)
      obtain ⟨fuel, rfl⟩ : ∃ less, fuel = less + 1 := ⟨fuel - 1, by omega⟩
      rw [Outline.written, elementOf]
      exact readElement_empty (readTag_field title value rest) fuel
  | .stack children => by
      intro fuel rest enough
      have inside := length_writtenLines_lt children
      obtain ⟨fuel, rfl⟩ : ∃ less, fuel = less + 1 := ⟨fuel - 1, by omega⟩
      have read := readChildren_writtenLines children fuel rest (by omega)
      rw [Outline.written_stack, elementOf]
      exact readElement_children (readTag_opening _) read (readEndTag_append (by decide) rest)

/-- The lines of a stack are read as the elements of its children. -/
theorem readChildren_writtenLines : ∀ (children : List Outline) (fuel : Nat) (rest : List Char),
    (writtenLines children).length < fuel →
      readChildren fuel
          (skipSpaces (writtenLines children ++ ((style true).closing.toList ++ rest))) =
        some (elementsOf children, '<' :: '/' :: ("StackPanel".toList ++ '>' :: rest))
  | [] => by
      intro fuel rest enough
      obtain ⟨fuel, rfl⟩ : ∃ less, fuel = less + 1 := ⟨fuel - 1, by omega⟩
      rw [writtenLines_nil, List.nil_append, readChildren_closing, elementsOf]
  | [outline] => by
      intro fuel rest enough
      have positive := length_written_pos outline
      rw [writtenLines_singleton] at enough ⊢
      obtain ⟨fuel, rfl⟩ : ∃ less, fuel = less + 2 := ⟨fuel - 2, by omega⟩
      have first := readElement_written outline (fuel + 1) ((style true).closing.toList ++ rest)
        (by omega)
      rw [readChildren_written first, readChildren_closing]
      rfl
  | outline :: next :: later => by
      intro fuel rest enough
      have positive := length_written_pos outline
      rw [writtenLines_cons] at enough ⊢
      simp only [List.length_append] at enough
      obtain ⟨fuel, rfl⟩ : ∃ less, fuel = less + 1 := ⟨fuel - 1, by omega⟩
      have first := readElement_written outline fuel ((style true).separator.toList ++
        (writtenLines (next :: later) ++ ((style true).closing.toList ++ rest))) (by omega)
      have others := readChildren_writtenLines (next :: later) fuel rest (by omega)
      rw [List.append_assoc, List.append_assoc, readChildren_written first, skipSpaces_separator,
        others]
      rfl

end

theorem read?_written (outline : Outline) :
    read? (outline.written (style true)) = some (elementOf outline) := by
  obtain ⟨c, body, begins, -⟩ := written_begins outline []
  rw [List.append_nil] at begins
  have flush : skipSpaces (outline.written (style true)) = outline.written (style true) := by
    rw [begins]
    rfl
  have read := readElement_written outline ((outline.written (style true)).length + 1) []
    (Nat.le_succ _)
  rw [List.append_nil] at read
  rw [read?, flush, read]
  rfl

/-- The markup of a tree without descriptions is well formed, and its element shows what the tree
shows. Trees have the same markup only if they show the same. -/
theorem markup_mirrors_tree (store : Store) (view : View) (plain : view.isPlain = true) :
    (∃ outline element, view.outline? store = some outline ∧
      read? (view.render (style true) store).toList = some element ∧ Mirrors outline element) ∧
    ∀ (otherStore : Store) (other : View), other.isPlain = true →
      other.render (style true) otherStore = view.render (style true) store →
      other.outline? otherStore = view.outline? store := by
  obtain ⟨outline, isOutline⟩ := View.exists_outline plain store
  have read : read? (view.render (style true) store).toList = some (elementOf outline) := by
    rw [View.toList_render isOutline, read?_written]
  constructor
  · exact ⟨outline, elementOf outline, isOutline, read, mirrors_elementOf outline⟩
  · intro otherStore other otherPlain same
    obtain ⟨otherOutline, isOther⟩ := View.exists_outline otherPlain otherStore
    rw [← same, View.toList_render isOther, read?_written] at read
    rw [isOutline, isOther, elementOf_injective (Option.some.inj read)]

/-- A content may begin with empty braces of its own, and a value may have commas. -/
theorem markup_mirrors_tree_for_cell :
    (View.stack [.label "\x7b\x7d", .field "Name" (.fixed "a, b" ⟨0⟩)]).outline? Store.empty =
      (View.stack [.label "\x7b\x7d", .field "Name" (.cell ⟨0⟩)]).outline? ⟨["a, b"], []⟩ := by
  have sameMarkup :
      (View.stack [.label "\x7b\x7d", .field "Name" (.fixed "a, b" ⟨0⟩)]).render (style true)
        Store.empty =
      (View.stack [.label "\x7b\x7d", .field "Name" (.cell ⟨0⟩)]).render (style true)
        ⟨["a, b"], []⟩ := by
    simp [View.render, View.renderAll, Binding.read, Store.read]
  exact (markup_mirrors_tree ⟨["a, b"], []⟩
    (.stack [.label "\x7b\x7d", .field "Name" (.cell ⟨0⟩)]) rfl).2 Store.empty
      (.stack [.label "\x7b\x7d", .field "Name" (.fixed "a, b" ⟨0⟩)]) rfl sameMarkup

end Polyview.Render.Windows
