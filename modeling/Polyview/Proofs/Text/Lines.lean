import Mathlib.Data.List.Infix
import Polyview.Text.Blank
import Polyview.Text.Lines

/-!
# Lines of composed texts

A line feed divides the lines of a text into those before it and those after it. Every line is a
piece of its text, and so is the text without the blanks at its ends.
-/

namespace Polyview.Text

/-! ## Pieces -/

/-- A piece without the separator of two texts is a piece of one of them. -/
theorem infix_or_infix_of_infix_append {α : Type} {separator : α} {piece first second : List α}
    (isPiece : piece <:+: first ++ separator :: second) (noSeparator : separator ∉ piece) :
    piece <:+: first ∨ piece <:+: second := by
  obtain ⟨before, after, whole⟩ := isPiece
  rcases List.append_eq_append_iff.mp whole with ⟨later, rfl, -⟩ | ⟨crossed, overlap, beyond⟩
  · exact .inl ⟨before, later, rfl⟩
  cases crossed with
  | nil => exact .inl ⟨before, [], by simpa using overlap⟩
  | cons c crossed =>
      obtain ⟨rfl, rfl⟩ := List.cons.inj beyond
      rcases List.append_eq_append_iff.mp overlap with ⟨begun, -, rfl⟩ | ⟨skipped, -, piecesEq⟩
      · exact absurd (by simp) noSeparator
      cases skipped with
      | nil =>
          rw [List.nil_append] at piecesEq
          subst piecesEq
          exact absurd (by simp) noSeparator
      | cons d skipped =>
          obtain ⟨-, rfl⟩ := List.cons.inj piecesEq
          exact .inr ⟨skipped, after, rfl⟩

theorem infix_of_infix_intercalate {α : Type} {separator : α} {piece : List α}
    {texts : List (List α)} (isPiece : piece <:+: List.intercalate [separator] texts)
    (noSeparator : separator ∉ piece) : piece = [] ∨ ∃ text ∈ texts, piece <:+: text := by
  induction texts with
  | nil => exact .inl (List.infix_nil.mp isPiece)
  | cons text texts ih =>
      cases texts with
      | nil => exact .inr ⟨text, by simp, by simpa using isPiece⟩
      | cons next texts =>
          have parted : List.intercalate [separator] (text :: next :: texts) =
              text ++ separator :: List.intercalate [separator] (next :: texts) := by
            simp
          rw [parted] at isPiece
          rcases infix_or_infix_of_infix_append isPiece noSeparator with here | later
          · exact .inr ⟨text, by simp, here⟩
          · rcases ih later with isEmpty | ⟨other, member, isPiece⟩
            · exact .inl isEmpty
            · exact .inr ⟨other, List.mem_cons_of_mem _ member, isPiece⟩

theorem trim_isInfix (text : List Char) : trim text <:+: text := by
  have front : trimStart text <:+: text := (List.dropWhile_suffix _).isInfix
  have back : trimEnd (trimStart text) <+: trimStart text := by
    rw [← List.reverse_suffix, trimEnd, List.reverse_reverse]
    exact List.dropWhile_suffix _
  exact back.isInfix.trans front

theorem getLast?_trim_ne {c : Char} (blank : isBlank c = true) (text : List Char) :
    (trim text).getLast? ≠ some c := by
  intro ended
  rw [trim, trimEnd, trimStart, List.getLast?_reverse] at ended
  have notBlank := List.head?_dropWhile_not isBlank (trimStart text).reverse
  rw [ended] at notBlank
  simp [blank] at notBlank

/-! ## Lines -/

theorem withoutReturn_isPrefix (line : List Char) : withoutReturn line <+: line := by
  unfold withoutReturn
  split
  · exact List.dropLast_prefix line
  · exact List.prefix_refl line

theorem withoutReturn_of_getLast?_ne {line : List Char} (noReturn : line.getLast? ≠ some '\r') :
    withoutReturn line = line :=
  if_neg noReturn

theorem withoutReturn_append (before : List Char) {line : List Char} (notEmpty : line ≠ []) :
    withoutReturn (before ++ line) = before ++ withoutReturn line := by
  have sameEnd : (before ++ line).getLast? = line.getLast? := by
    rw [List.getLast?_append, List.getLast?_eq_some_getLast notEmpty, Option.some_or]
  unfold withoutReturn
  rw [sameEnd]
  split
  · exact List.dropLast_append_of_ne_nil notEmpty
  · rfl

/-- What has no line feed only adds to the line that has begun. -/
theorem linesFrom_append {first : List Char} (noFeed : '\n' ∉ first) (begun rest : List Char) :
    linesFrom begun (first ++ rest) = linesFrom (first.reverse ++ begun) rest := by
  induction first generalizing begun with
  | nil => rfl
  | cons c first ih =>
      obtain ⟨notFeed, noFeed⟩ := not_or.mp (mt List.mem_cons.mpr noFeed)
      rw [List.cons_append, linesFrom, if_neg (Ne.symm notFeed), ih noFeed]
      simp

theorem linesFrom_append_lineFeed (begun text rest : List Char) :
    linesFrom begun (text ++ '\n' :: rest) = linesFrom begun (text ++ ['\n']) ++ lines rest := by
  induction text generalizing begun with
  | nil => simp [linesFrom, lines]
  | cons c text ih =>
      rw [List.cons_append, List.cons_append, linesFrom, linesFrom]
      split
      · rw [ih [], List.cons_append]
      · exact ih (c :: begun)

theorem lines_append_lineFeed (text rest : List Char) :
    lines (text ++ '\n' :: rest) = lines (text ++ ['\n']) ++ lines rest :=
  linesFrom_append_lineFeed [] text rest

theorem mem_linesFrom (begun : List Char) {text line : List Char} (noFeed : '\n' ∉ begun)
    (member : line ∈ linesFrom begun text) : '\n' ∉ line ∧ line <:+: begun.reverse ++ text := by
  induction text generalizing begun with
  | nil =>
      rw [linesFrom] at member
      split at member
      · cases member
      · obtain rfl := List.mem_singleton.mp member
        exact ⟨by simpa using noFeed, by simp⟩
  | cons c text ih =>
      rw [linesFrom] at member
      split at member
      next isFeed =>
        rcases List.mem_cons.mp member with rfl | later
        · have isPiece := (withoutReturn_isPrefix begun.reverse).isInfix
          refine ⟨fun inside => noFeed (List.mem_reverse.mp (isPiece.subset inside)), ?_⟩
          exact isPiece.trans (List.prefix_append _ _).isInfix
        · obtain ⟨notInLine, isPiece⟩ := ih [] (by simp) later
          refine ⟨notInLine, isPiece.trans ?_⟩
          exact ((List.suffix_cons c text).trans (List.suffix_append _ _)).isInfix
      next notFeed =>
        have stillNoFeed : '\n' ∉ c :: begun := by
          simpa using ⟨Ne.symm notFeed, noFeed⟩
        simpa using ih (c :: begun) stillNoFeed member

/-- A line is a piece of its text between two line feeds. -/
theorem mem_lines {text line : List Char} (member : line ∈ lines text) :
    '\n' ∉ line ∧ line <:+: text :=
  mem_linesFrom [] (by simp) member

/-- Whether every carriage return of a text stands directly before a line feed. -/
def returnsArePaired : List Char → Bool
  | [] => true
  | c :: rest => (c != '\r' || rest.head? == some '\n') && returnsArePaired rest

theorem returnsArePaired_of_append (first : List Char) {rest : List Char}
    (paired : returnsArePaired (first ++ rest) = true) : returnsArePaired rest = true := by
  induction first with
  | nil => exact paired
  | cons c first ih =>
      rw [List.cons_append, returnsArePaired, Bool.and_eq_true] at paired
      exact ih paired.2

theorem head?_of_returnsArePaired {before after : List Char}
    (paired : returnsArePaired (before ++ '\r' :: after) = true) : after.head? = some '\n' := by
  have atReturn := returnsArePaired_of_append before paired
  simp only [returnsArePaired, Bool.and_eq_true, Bool.or_eq_true, bne_self_eq_false,
    Bool.false_eq_true, false_or, beq_iff_eq] at atReturn
  exact atReturn.1

theorem getLast?_ne_of_mem_linesFrom (begun : List Char) {text line : List Char}
    (paired : returnsArePaired (begun.reverse ++ text) = true)
    (member : line ∈ linesFrom begun text) : line.getLast? ≠ some '\r' := by
  induction text generalizing begun with
  | nil =>
      rw [linesFrom] at member
      split at member
      · cases member
      · obtain rfl := List.mem_singleton.mp member
        intro ended
        obtain ⟨before, whole⟩ := List.getLast?_eq_some_iff.mp ended
        rw [List.append_nil, whole] at paired
        have next := head?_of_returnsArePaired paired
        cases next
  | cons c text ih =>
      rw [linesFrom] at member
      split at member
      next isFeed =>
        rcases List.mem_cons.mp member with rfl | later
        · intro ended
          -- the return that was taken off would stand behind this one
          obtain ⟨before, whole⟩ := List.getLast?_eq_some_iff.mp ended
          unfold withoutReturn at whole
          split at whole
          next alsoEnded =>
            obtain ⟨further, wholeLine⟩ := List.getLast?_eq_some_iff.mp alsoEnded
            rw [wholeLine, List.dropLast_concat] at whole
            rw [wholeLine, whole, List.append_assoc, List.append_assoc] at paired
            have next := head?_of_returnsArePaired paired
            cases next
          next notEnded => exact notEnded (List.getLast?_eq_some_iff.mpr ⟨before, whole⟩)
        · have pairedLater : returnsArePaired text = true := by
            apply returnsArePaired_of_append (begun.reverse ++ [c])
            simpa using paired
          exact ih [] pairedLater later
      next notFeed =>
        exact ih (c :: begun) (by simpa using paired) member

/-- If every carriage return belongs to a line feed, then no line ends with one. -/
theorem getLast?_ne_of_mem_lines {text line : List Char} (paired : returnsArePaired text = true)
    (member : line ∈ lines text) : line.getLast? ≠ some '\r' :=
  getLast?_ne_of_mem_linesFrom [] paired member

end Polyview.Text
