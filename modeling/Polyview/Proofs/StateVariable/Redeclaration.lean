import Polyview.Document.Views
import Polyview.Proofs.StateVariable.Surroundings
import Polyview.Proofs.Text.Lines
import Polyview.Render.Macos

/-!
# Declaring state again

The body of a description has no declarations left, and the content view written around it declares
the variables of the source, each once and in order.
-/

namespace Polyview

namespace StateVariable

open Text

/-- The declarations on the lines of a text. -/
def partsOfLines (text : List Char) : List Parts := (lines text).filterMap parts?

/-- What a declaration says, apart from the line on which it stands. -/
def facts (declared : StateVariable) : Bool × String × String × Option String :=
  (declared.isPrivate, declared.name, declared.typeName, declared.initial)

theorem map_facts_scan (source : String) :
    (scan source).map facts =
      (partsOfLines source.toList).map fun parts => facts (ofParts [] parts) := by
  have each (line : List Char) :
      (ofLine? line).map facts = (parts? line).map fun parts => facts (ofParts [] parts) := by
    rw [ofLine?, Option.map_map]
    rfl
  simp only [scan, partsOfLines, List.map_filterMap, each]

/-! ## Lines put together -/

theorem partsOfLines_append_lineFeed (text rest : List Char) :
    partsOfLines (text ++ '\n' :: rest) =
      partsOfLines (text ++ ['\n']) ++ partsOfLines rest := by
  rw [partsOfLines, lines_append_lineFeed, List.filterMap_append]
  rfl

theorem filterMap_parts?_linesFrom_nil (begun : List Char) :
    (linesFrom begun []).filterMap parts? = (parts? begun.reverse).toList := by
  cases begun with
  | nil => rfl
  | cons c begun =>
      rw [linesFrom, if_neg (by simp), List.filterMap_cons]
      cases parts? (c :: begun).reverse <;> rfl

theorem partsOfLines_line {line : List Char} (noFeed : '\n' ∉ line) :
    partsOfLines line = (parts? line).toList := by
  have whole := linesFrom_append noFeed [] []
  rw [List.append_nil, List.append_nil] at whole
  rw [partsOfLines, lines, whole, filterMap_parts?_linesFrom_nil, List.reverse_reverse]

theorem filterMap_parts?_linesFrom_ended (begun : List Char) {text : List Char}
    (noReturn : (begun.reverse ++ text).getLast? ≠ some '\r') :
    (linesFrom begun (text ++ ['\n'])).filterMap parts? =
      (linesFrom begun text).filterMap parts? := by
  induction text generalizing begun with
  | nil =>
      rw [List.append_nil] at noReturn
      rw [filterMap_parts?_linesFrom_nil, List.nil_append, linesFrom, if_pos rfl,
        withoutReturn_of_getLast?_ne noReturn, List.filterMap_cons]
      cases parts? begun.reverse <;> rfl
  | cons c text ih =>
      rw [List.cons_append, linesFrom, linesFrom]
      split
      · have laterNoReturn : text.getLast? ≠ some '\r' := by
          intro ended
          obtain ⟨before, rfl⟩ := List.getLast?_eq_some_iff.mp ended
          apply noReturn
          exact List.getLast?_eq_some_iff.mpr ⟨begun.reverse ++ c :: before, by simp⟩
        rw [List.filterMap_cons, List.filterMap_cons, ih [] laterNoReturn]
      · exact ih (c :: begun) (by simpa using noReturn)

/-- A line feed at the end of a text takes nothing away, unless a return stood there. -/
theorem partsOfLines_ended {text : List Char} (noReturn : text.getLast? ≠ some '\r') :
    partsOfLines (text ++ ['\n']) = partsOfLines text :=
  filterMap_parts?_linesFrom_ended [] noReturn

/-- A text that can stand before a line without changing what the line declares. -/
structure IsIndent (before : List Char) : Prop where
  noMark : '@' ∉ before
  noFeed : '\n' ∉ before

theorem IsIndent.parts?_withoutReturn {before : List Char} (indents : IsIndent before)
    (line : List Char) :
    parts? (withoutReturn (before ++ line)) = parts? (withoutReturn line) := by
  cases line with
  | nil =>
      have noMark : '@' ∉ withoutReturn (before ++ []) := by
        intro member
        rw [List.append_nil] at member
        exact indents.noMark ((withoutReturn_isPrefix before).subset member)
      rw [parts?_eq_none_of_not_mem noMark]
      rfl
  | cons c line =>
      rw [withoutReturn_append before (List.cons_ne_nil c line),
        parts?_append_of_not_mem indents.noMark]

theorem IsIndent.filterMap_parts?_linesFrom {before : List Char} (indents : IsIndent before)
    (begun text : List Char) :
    (linesFrom (begun ++ before.reverse) text).filterMap parts? =
      (linesFrom begun text).filterMap parts? := by
  induction text generalizing begun with
  | nil =>
      rw [filterMap_parts?_linesFrom_nil, filterMap_parts?_linesFrom_nil, List.reverse_append,
        List.reverse_reverse, parts?_append_of_not_mem indents.noMark]
  | cons c text ih =>
      rw [linesFrom, linesFrom]
      split
      · rw [List.filterMap_cons, List.filterMap_cons, List.reverse_append, List.reverse_reverse,
          indents.parts?_withoutReturn]
      · exact ih (c :: begun)

theorem IsIndent.partsOfLines_append {before : List Char} (indents : IsIndent before)
    (text : List Char) : partsOfLines (before ++ text) = partsOfLines text := by
  have whole := linesFrom_append indents.noFeed [] text
  rw [List.append_nil] at whole
  rw [partsOfLines, lines, whole]
  exact indents.filterMap_parts?_linesFrom [] text

/-- One line, behind an indent, declares what it declares alone. -/
theorem IsIndent.partsOfLines_append_line {before : List Char} (indents : IsIndent before)
    (line : List Char) (noFeed : '\n' ∉ line) (noReturn : line.getLast? ≠ some '\r')
    (rest : List Char) :
    partsOfLines (before ++ (line ++ '\n' :: rest)) = (parts? line).toList ++ partsOfLines rest := by
  rw [indents.partsOfLines_append, partsOfLines_append_lineFeed, partsOfLines_ended noReturn,
    partsOfLines_line noFeed]

theorem IsIndent.partsOfLines_append_intercalate {before : List Char} (indents : IsIndent before)
    (rest : List Char) {texts : List (List Char)} (noFeed : ∀ text ∈ texts, '\n' ∉ text)
    (noReturn : ∀ text ∈ texts, text.getLast? ≠ some '\r') :
    partsOfLines (before ++ (List.intercalate ('\n' :: before) texts ++ '\n' :: rest)) =
      texts.filterMap parts? ++ partsOfLines rest := by
  induction texts with
  | nil => exact indents.partsOfLines_append_line [] (by simp) (by simp) rest
  | cons text texts ih =>
      rw [List.forall_mem_cons] at noFeed noReturn
      have first (beyond : List Char) :=
        indents.partsOfLines_append_line text noFeed.1 noReturn.1 beyond
      have declares : (text :: texts).filterMap parts? =
          (parts? text).toList ++ texts.filterMap parts? := by
        rw [List.filterMap_cons]
        cases parts? text <;> rfl
      cases texts with
      | nil => rw [List.intercalate_singleton, first, declares, List.append_assoc]; rfl
      | cons next texts =>
          have parted : List.intercalate ('\n' :: before) (text :: next :: texts) ++ '\n' :: rest =
              text ++ '\n' :: (before ++
                (List.intercalate ('\n' :: before) (next :: texts) ++ '\n' :: rest)) := by
            simp
          rw [parted, first, ih noFeed.2 noReturn.2, declares, List.append_assoc]

theorem partsOfLines_eq_nil_of_not_mem {text : List Char} (noMark : '@' ∉ text) :
    partsOfLines text = [] := by
  rw [partsOfLines, List.filterMap_eq_nil_iff]
  intro line member
  exact parts?_eq_none_of_not_mem fun inside => noMark ((mem_lines member).2.subset inside)

/-! ## Descriptions -/

/-- What is left of a source declares nothing. -/
theorem partsOfLines_bodyOf (source : String) :
    partsOfLines (Node.bodyOf source).toList = [] := by
  rw [partsOfLines, List.filterMap_eq_nil_iff]
  intro line member
  obtain ⟨noFeed, isPiece⟩ := mem_lines member
  rw [Node.bodyOf, String.toList_ofList] at isPiece
  rcases infix_of_infix_intercalate (isPiece.trans (trim_isInfix _)) noFeed with
    rfl | ⟨kept, isKept, isPiece⟩
  · rfl
  · have silent : parts? kept = none := by
      simpa [undeclaringLines, ofLine?] using (List.mem_filter.mp isKept).2
    exact parts?_eq_none_of_infix isPiece silent

/-- The lines that declare the variables of a source. -/
def declaringLines (source : String) : List (List Char) :=
  (scan source).map fun declared => declared.declaration.toList

theorem declaringLines_eq (source : String) :
    declaringLines source =
      (lines source.toList).filter fun line => (parts? line).isSome := by
  have each (line : List Char) :
      (ofLine? line).map (fun declared => declared.declaration.toList) =
        Option.guard (fun line => (parts? line).isSome) line := by
    rw [ofLine?]
    cases declares : parts? line <;> simp [Option.guard, ofParts, declares]
  simp only [declaringLines, scan, List.map_filterMap, each, List.filterMap_eq_filter]

theorem filterMap_parts?_declaringLines (source : String) :
    (declaringLines source).filterMap parts? = partsOfLines source.toList := by
  rw [declaringLines_eq, partsOfLines, List.filterMap_filter]
  congr 1
  funext line
  cases parts? line <;> rfl

end StateVariable

namespace Render.Macos

open StateVariable Text

/-- The line that opens a content view. -/
def viewLine : List Char := "struct ContentView: View \x7b".toList

/-- The line that opens the body of a content view. -/
def bodyLine : List Char := "    var body: some View \x7b".toList

/-- The lines that close the body and the view. -/
def closingLines : List Char := "    \x7d\n\x7d".toList

/-- What stands before a declaration in a content view. -/
def indent : List Char := [' ', ' ', ' ', ' ']

theorem toList_describedView (text : String) (declared : List StateVariable) :
    (describedView text declared).toList =
      viewLine ++ '\n' :: (indent ++
        (List.intercalate ('\n' :: indent)
            (declared.map fun declaration => declaration.declaration.toList) ++
          '\n' :: '\n' :: (bodyLine ++
            '\n' :: ((indent ++ indent) ++ (text.toList ++ '\n' :: closingLines))))) := by
  have opening : "struct ContentView: View \x7b\n    ".toList = viewLine ++ '\n' :: indent := rfl
  have separator : "\n    ".toList = '\n' :: indent := rfl
  have middle : "\n\n    var body: some View \x7b\n        ".toList =
      '\n' :: '\n' :: (bodyLine ++ '\n' :: (indent ++ indent)) := rfl
  have closing : "\n    \x7d\n\x7d".toList = '\n' :: closingLines := rfl
  unfold describedView
  rw [String.toList_append, String.toList_append, String.toList_append, String.toList_append,
    String.toList_intercalate, opening, separator, middle, closing, List.map_map]
  simp only [List.append_assoc, List.cons_append, Function.comp_def, declarationFor]

theorem isIndent_indent : IsIndent indent :=
  ⟨by decide, by decide⟩

theorem isIndent_indent_indent : IsIndent (indent ++ indent) :=
  ⟨by decide, by decide⟩

theorem partsOfLines_append_silent (line : List Char) (noMark : '@' ∉ line) (rest : List Char) :
    partsOfLines (line ++ '\n' :: rest) = partsOfLines rest := by
  rw [partsOfLines_append_lineFeed, partsOfLines_eq_nil_of_not_mem (by simpa using noMark),
    List.nil_append]

theorem partsOfLines_body (source : String) :
    partsOfLines ((indent ++ indent) ++ ((Node.bodyOf source).toList ++ '\n' :: closingLines)) =
      [] := by
  have noReturn : (Node.bodyOf source).toList.getLast? ≠ some '\r' := by
    rw [Node.bodyOf, String.toList_ofList]
    exact getLast?_trim_ne (by decide) _
  have closes : partsOfLines closingLines = [] := partsOfLines_eq_nil_of_not_mem (by decide)
  rw [isIndent_indent_indent.partsOfLines_append, partsOfLines_append_lineFeed,
    partsOfLines_ended noReturn, partsOfLines_bodyOf, closes, List.nil_append]

/-- The content view around what is left of a source declares what the source declares. -/
theorem partsOfLines_describedView {source : String}
    (paired : returnsArePaired source.toList = true) :
    partsOfLines (describedView (Node.bodyOf source) (scan source)).toList =
      partsOfLines source.toList := by
  have areLines : ∀ line ∈ declaringLines source, line ∈ lines source.toList := by
    intro line member
    rw [declaringLines_eq] at member
    exact (List.mem_filter.mp member).1
  have noFeed : ∀ line ∈ declaringLines source, '\n' ∉ line := fun line member =>
    (mem_lines (areLines line member)).1
  have noReturn : ∀ line ∈ declaringLines source, line.getLast? ≠ some '\r' := fun line member =>
    getLast?_ne_of_mem_lines paired (areLines line member)
  -- the declaring lines stand behind indents; all other lines of the view have no mark
  have declared := isIndent_indent.partsOfLines_append_intercalate
    ('\n' :: (bodyLine ++ '\n' :: ((indent ++ indent) ++
      ((Node.bodyOf source).toList ++ '\n' :: closingLines)))) noFeed noReturn
  rw [toList_describedView, partsOfLines_append_silent _ (by decide)]
  refine declared.trans ?_
  have emptyLine := partsOfLines_append_silent [] (by simp)
    (bodyLine ++ '\n' :: ((indent ++ indent) ++
      ((Node.bodyOf source).toList ++ '\n' :: closingLines)))
  rw [List.nil_append] at emptyLine
  rw [filterMap_parts?_declaringLines, emptyLine, partsOfLines_append_silent _ (by decide),
    partsOfLines_body, List.append_nil]

/-- The view of a description without a body of its own has a text in which nothing is declared.
If every return of the source belongs to a line feed, then its rendering declares what the source
declares, in order. -/
theorem description_redeclares_its_state (cells : CellTable) (store : Store) (source : String) :
    ∃ text : String,
      (Node.description source none).toView cells store =
        .ok (.description text (scan source), store) ∧
      scan text = [] ∧
      (returnsArePaired source.toList = true → ∀ (escape : Bool) (later : Store),
        (scan ((View.description text (scan source)).render (style escape) later)).map facts =
          (scan source).map facts) := by
  refine ⟨Node.bodyOf source, rfl, ?_, ?_⟩
  · have silent := map_facts_scan (Node.bodyOf source)
    rw [partsOfLines_bodyOf, List.map_nil] at silent
    exact List.map_eq_nil_iff.mp silent
  · intro paired escape later
    have rendered : (View.description (Node.bodyOf source) (scan source)).render (style escape) later =
        describedView (Node.bodyOf source) (scan source) := rfl
    rw [rendered, map_facts_scan, map_facts_scan, partsOfLines_describedView paired]

/-- The declaration of a counter comes back from a source whose lines end with returns. -/
theorem description_redeclares_its_state_of_counter :
    ∃ text : String, scan text = [] ∧
      (scan ((View.description text (scan "@State private var n = 0\r\nText(n)")).render
        (style true) .empty)).map facts = [(true, "n", "Any", some "0")] := by
  obtain ⟨text, -, silent, redeclared⟩ :=
    description_redeclares_its_state [] .empty "@State private var n = 0\r\nText(n)"
  refine ⟨text, silent, ?_⟩
  rw [redeclared (by decide) true .empty]
  decide

end Render.Macos

end Polyview
