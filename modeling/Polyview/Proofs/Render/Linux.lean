import Polyview.Proofs.Escape.StringLiteral
import Polyview.Proofs.Render.Outline
import Polyview.Render.Linux

/-!
# Escaped documents for Linux

The escaped document for a tree holds its rendering in a string literal, from which the rendering
and then the tree can be told.
-/

namespace Polyview.Render.Linux

open StringLiteral (escaped escaped_append_injective readBody readBody_escaped toList_escape)

/-! ## Widgets -/

theorem toList_label (content : String) (rest : List Char) :
    ((style true).label content).toList ++ rest =
      "Label(\"".toList ++ (escaped content.toList ++ '"' :: ')' :: rest) := by
  simp [style, style.literal, toList_escape]

theorem toList_field (title value : String) (rest : List Char) :
    ((style true).field title value).toList ++ rest =
      "Entry(text: \"".toList ++ (escaped value.toList ++
        '"' :: (", placeholder: \"".toList ++ (escaped title.toList ++ '"' :: ')' :: rest))) := by
  simp [style, style.literal, toList_escape]

theorem isClear_style : (style true).IsClear where
  label same := by
    rw [toList_label, toList_label] at same
    obtain ⟨content, rest⟩ := escaped_append_injective (List.append_cancel_left same)
    exact ⟨String.toList_injective content, (List.cons.inj rest).2⟩
  field _ _ same := by
    rw [toList_field, toList_field] at same
    obtain ⟨value, rest⟩ := escaped_append_injective (List.append_cancel_left same)
    obtain ⟨title, rest⟩ := escaped_append_injective (List.append_cancel_left rest)
    exact ⟨String.toList_injective title, String.toList_injective value, (List.cons.inj rest).2⟩
  label_ne_field := by simp [toList_label, toList_field]
  label_ne_opening := by simp [style]
  field_ne_opening := by simp [style]
  closing_ne_child := by
    intro outline rest otherRest
    cases outline <;> simp [Outline.written, style]
  closing_ne_next := by simp [style]

/-! ## Documents -/

/-- What stands before the literal of every document. -/
def programStart : String := "import Glibc\n\nlet content = \""

/-- What stands after the literal of every document. -/
def programEnd : String := "\nprint(\"Running Linux UI: \\(content)\")\n"

theorem toList_program (fragment : String) :
    (style.program true fragment).toList =
      programStart.toList ++ (escaped fragment.toList ++ '"' :: programEnd.toList) := by
  have literal : style.literal true fragment = StringLiteral.escape fragment := rfl
  unfold style.program programStart programEnd
  rw [literal, String.toList_append, String.toList_append, toList_escape, List.append_assoc]
  simp only [String.reduceToList]

theorem renderPage_eq (store : Store) (appName : String) (view : View) :
    view.renderPage (style true) store appName =
      style.program true (view.render (style true) store) := by
  cases view <;> simp only [View.renderPage, style]

/-- A document consists of a fixed start, the body of a literal, its closing quote and a fixed end.
The literal is read up to that quote and holds the rendered tree, and documents of trees without
descriptions are the same only if the trees show the same. -/
theorem page_reads_back (store : Store) (appName : String) (view : View) :
    (∃ body, (view.renderPage (style true) store appName).toList =
        programStart.toList ++ (body ++ '"' :: programEnd.toList) ∧
      readBody (body ++ '"' :: programEnd.toList) =
        some ((view.render (style true) store).toList, programEnd.toList)) ∧
    ∀ (otherStore : Store) (otherName : String) (other : View),
      view.isPlain = true → other.isPlain = true →
      other.renderPage (style true) otherStore otherName =
        view.renderPage (style true) store appName →
      other.outline? otherStore = view.outline? store := by
  constructor
  · refine ⟨escaped (view.render (style true) store).toList, ?_, ?_⟩
    · rw [renderPage_eq, toList_program]
    · rw [readBody_escaped]
  · intro otherStore otherName other plain otherPlain same
    have pages := congrArg String.toList same
    rw [renderPage_eq, renderPage_eq, toList_program, toList_program] at pages
    obtain ⟨fragments, -⟩ := escaped_append_injective (List.append_cancel_left pages)
    exact View.outline?_eq_of_render_eq isClear_style otherPlain plain
      (String.toList_injective fragments)

/-- A field shows the same whether its text is fixed or lies in a cell. -/
theorem page_reads_back_for_cell :
    (View.stack [.label "\"", .field "Name" (.fixed "Ada" ⟨0⟩)]).outline? Store.empty =
      (View.stack [.label "\"", .field "Name" (.cell ⟨0⟩)]).outline? ⟨["Ada"], []⟩ := by
  have samePage :
      (View.stack [.label "\"", .field "Name" (.fixed "Ada" ⟨0⟩)]).renderPage (style true)
        Store.empty "Other" =
      (View.stack [.label "\"", .field "Name" (.cell ⟨0⟩)]).renderPage (style true)
        ⟨["Ada"], []⟩ "App" := by
    simp [View.renderPage, View.render, View.renderAll, Binding.read, Store.read, style]
  exact (page_reads_back ⟨["Ada"], []⟩ "App"
    (.stack [.label "\"", .field "Name" (.cell ⟨0⟩)])).2 Store.empty "Other"
      (.stack [.label "\"", .field "Name" (.fixed "Ada" ⟨0⟩)]) rfl rfl samePage

end Polyview.Render.Linux
