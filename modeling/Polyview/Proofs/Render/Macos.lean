import Mathlib.Tactic.SplitIfs
import Polyview.Proofs.Escape.StringLiteral
import Polyview.Proofs.Render.Outline
import Polyview.Render.Macos

/-!
# Escaped renderings for macOS

Contents and titles are escaped, but the text in a field is put in as it is, before a closing
parenthesis. A tree can be told from its rendering as long as no such text can be taken for another
one with something behind it. Texts whose parentheses match are of this kind, others need not be.
-/

namespace Polyview.Render.Macos

open StringLiteral (escaped escaped_append_injective toList_escape)

/-! ## Texts before a closing parenthesis -/

/-- Whether no text of a kind goes on where another one of that kind has been closed. -/
def IsDelimited (readable : String → Prop) : Prop :=
  ∀ {text other : String}, readable text → readable other →
    ∀ more, other.toList ≠ text.toList ++ ')' :: more

theorem IsDelimited.append_injective {readable : String → Prop} (delimited : IsDelimited readable)
    {text other : String} (isReadable : readable text) (isOtherReadable : readable other)
    {rest otherRest : List Char}
    (same : text.toList ++ ')' :: rest = other.toList ++ ')' :: otherRest) :
    text = other ∧ rest = otherRest := by
  rcases List.append_eq_append_iff.1 same with ⟨between, otherEq, restEq⟩ | ⟨between, textEq, restEq⟩
  · cases between with
    | nil => exact ⟨String.toList_injective (by simpa using otherEq.symm), by simpa using restEq⟩
    | cons c more =>
        obtain ⟨rfl, -⟩ := List.cons.inj restEq
        exact absurd otherEq (delimited isReadable isOtherReadable more)
  · cases between with
    | nil => exact ⟨String.toList_injective (by simpa using textEq), by simpa using restEq.symm⟩
    | cons c more =>
        obtain ⟨rfl, -⟩ := List.cons.inj restEq
        exact absurd textEq (delimited isOtherReadable isReadable more)

/-- The number of open parentheses after a text that starts with some open. A closing parenthesis
without an open one has none. -/
def openAfter? (isOpen : Nat) : List Char → Option Nat
  | [] => some isOpen
  | c :: rest =>
      if c = '(' then openAfter? (isOpen + 1) rest
      else if c = ')' then
        if isOpen = 0 then none else openAfter? (isOpen - 1) rest
      else openAfter? isOpen rest

/-- Whether every parenthesis of a text has its partner in the text. -/
def HasMatchedParentheses (text : String) : Prop := openAfter? 0 text.toList = some 0

instance (text : String) : Decidable (HasMatchedParentheses text) :=
  inferInstanceAs (Decidable (_ = _))

theorem openAfter?_append (text more : List Char) (isOpen : Nat) :
    openAfter? isOpen (text ++ more) =
      (openAfter? isOpen text).bind fun before => openAfter? before more := by
  induction text generalizing isOpen with
  | nil => rfl
  | cons c rest ih =>
      rw [List.cons_append, openAfter?, openAfter?]
      split_ifs with isOpening isClosing noneOpen
      · exact ih (isOpen + 1)
      · rfl
      · exact ih (isOpen - 1)
      · exact ih isOpen

/-- A text with matched parentheses has no place where a parenthesis around it could be closed. -/
theorem isDelimited_hasMatchedParentheses : IsDelimited HasMatchedParentheses := by
  intro text other matched otherMatched more otherEq
  have closed : openAfter? 0 (text.toList ++ ')' :: more) = none := by
    rw [openAfter?_append, matched]
    rfl
  rw [HasMatchedParentheses, otherEq, closed] at otherMatched
  cases otherMatched

/-! ## Views -/

theorem toList_label (content : String) (rest : List Char) :
    ((style true).label content).toList ++ rest =
      "Text(\"".toList ++ (escaped content.toList ++ '"' :: ')' :: rest) := by
  simp [style, style.literal, toList_escape]

theorem toList_field (title value : String) (rest : List Char) :
    ((style true).field title value).toList ++ rest =
      "TextField(\"".toList ++ (escaped title.toList ++
        '"' :: (", text: ".toList ++ (value.toList ++ ')' :: rest))) := by
  simp [style, style.literal, toList_escape]

theorem isClearFor_style {readable : String → Prop} (delimited : IsDelimited readable) :
    (style true).IsClearFor readable where
  label same := by
    rw [toList_label, toList_label] at same
    obtain ⟨content, rest⟩ := escaped_append_injective (List.append_cancel_left same)
    exact ⟨String.toList_injective content, (List.cons.inj rest).2⟩
  field isReadable isOtherReadable same := by
    rw [toList_field, toList_field] at same
    obtain ⟨title, rest⟩ := escaped_append_injective (List.append_cancel_left same)
    obtain ⟨value, rest⟩ := delimited.append_injective isReadable isOtherReadable
      (List.append_cancel_left rest)
    exact ⟨String.toList_injective title, value, rest⟩
  label_ne_field := by simp [toList_label, toList_field]
  label_ne_opening := by simp [style]
  field_ne_opening := by simp [style]
  closing_ne_child := by
    intro outline rest otherRest
    cases outline <;> simp [Outline.written, style]
  closing_ne_next := by
    intro outline rest otherRest
    cases outline <;> simp [Outline.written, style]

/-- Trees without descriptions whose fields show texts with matched parentheses have the same
escaped rendering only if they show the same: contents and titles may be any texts. -/
theorem fragment_determines_tree (store otherStore : Store) (view other : View)
    (plain : view.isPlain = true) (otherPlain : other.isPlain = true)
    (matched : ∀ text ∈ view.fieldTexts store, HasMatchedParentheses text)
    (otherMatched : ∀ text ∈ other.fieldTexts otherStore, HasMatchedParentheses text)
    (same : view.render (style true) store = other.render (style true) otherStore) :
    view.outline? store = other.outline? otherStore :=
  View.outline?_eq_of_render_eq_of_readable (isClearFor_style isDelimited_hasMatchedParentheses)
    plain otherPlain matched otherMatched same

/-- A field shows the same call whether it is fixed or lies in a cell, next to a content that ends
like a field. -/
theorem fragment_determines_tree_for_call :
    (View.stack [.label "\", text: x)", .field "Name" (.fixed "names(at: 0)" ⟨0⟩)]).outline?
        Store.empty =
      (View.stack [.label "\", text: x)", .field "Name" (.cell ⟨0⟩)]).outline?
        ⟨["names(at: 0)"], []⟩ :=
  fragment_determines_tree Store.empty ⟨["names(at: 0)"], []⟩
    (.stack [.label "\", text: x)", .field "Name" (.fixed "names(at: 0)" ⟨0⟩)])
    (.stack [.label "\", text: x)", .field "Name" (.cell ⟨0⟩)]) rfl rfl (by decide) (by decide)
    (by simp [View.render, View.renderAll, Binding.read, Store.read])

/-- A field whose text closes the parenthesis around it reads as two fields. -/
theorem field_reads_as_two :
    (View.stack [.field "a" (.cell ⟨0⟩)]).render (style true)
        ⟨["x)\nTextField(\"b\", text: y"], []⟩ =
      (View.stack [.field "a" (.cell ⟨0⟩), .field "b" (.cell ⟨1⟩)]).render (style true)
        ⟨["x", "y"], []⟩ ∧
    (View.stack [.field "a" (.cell ⟨0⟩)]).outline? ⟨["x)\nTextField(\"b\", text: y"], []⟩ ≠
      (View.stack [.field "a" (.cell ⟨0⟩), .field "b" (.cell ⟨1⟩)]).outline? ⟨["x", "y"], []⟩ := by
  constructor
  · decide
  · simp [View.outline?, View.outlineAll?]

end Polyview.Render.Macos
