import Mathlib.Data.List.TakeWhile
import Polyview.Text.Blank
import Polyview.Text.Letter

/-!
# Runs of characters

A text falls into a run of characters that satisfy a test and a rest that does not go on with the
run. Texts without the blanks at their ends are described in the same way. No blank character is
part of a name, so a run of blanks before a name has one end only.
-/

namespace Polyview.Text

/-- A text that does not begin with a character that satisfies a test. -/
def Stops (test : Char → Bool) (text : List Char) : Prop := ∀ c ∈ text.head?, test c = false

@[simp]
theorem stops_nil (test : Char → Bool) : Stops test [] := by
  simp [Stops]

@[simp]
theorem stops_cons {test : Char → Bool} {c : Char} {rest : List Char} :
    Stops test (c :: rest) ↔ test c = false := by
  simp [Stops]

theorem stops_dropWhile (test : Char → Bool) (text : List Char) :
    Stops test (text.dropWhile test) := by
  intro c isFirst
  have stopped := List.head?_dropWhile_not test text
  rw [Option.mem_def.mp isFirst] at stopped
  exact stopped

theorem dropWhile_append_of_stops {test : Char → Bool} {run rest : List Char}
    (passes : ∀ c ∈ run, test c = true) (stops : Stops test rest) :
    (run ++ rest).dropWhile test = rest := by
  rw [List.dropWhile_append_of_pos passes]
  cases rest with
  | nil => rfl
  | cons c rest => exact List.dropWhile_cons_of_neg (by simpa using stops)

theorem takeWhile_append_of_stops {test : Char → Bool} {run rest : List Char}
    (passes : ∀ c ∈ run, test c = true) (stops : Stops test rest) :
    (run ++ rest).takeWhile test = run := by
  rw [List.takeWhile_append_of_pos passes]
  cases rest with
  | nil => simp
  | cons c rest =>
      rw [List.takeWhile_cons_of_neg (by simpa using stops), List.append_nil]

/-- A text begins with a run of characters that satisfy a test, which is not empty and does not go
on in the rest of the text. -/
structure IsLongestRun (test : Char → Bool) (text run rest : List Char) : Prop where
  splits : text = run ++ rest
  notEmpty : run ≠ []
  passes : ∀ c ∈ run, test c = true
  stops : Stops test rest

theorem isLongestRun_iff {test : Char → Bool} {text run rest : List Char} :
    IsLongestRun test text run rest ↔
      text.takeWhile test = run ∧ text.dropWhile test = rest ∧ run ≠ [] := by
  constructor
  · rintro ⟨rfl, notEmpty, passes, stops⟩
    exact ⟨takeWhile_append_of_stops passes stops, dropWhile_append_of_stops passes stops, notEmpty⟩
  · rintro ⟨rfl, rfl, notEmpty⟩
    exact ⟨List.takeWhile_append_dropWhile.symm, notEmpty, fun _ => List.mem_takeWhile_imp,
      stops_dropWhile test text⟩

/-! ## Blanks -/

/-- A text of nothing but blanks, perhaps of nothing at all. -/
def AreBlanks (text : List Char) : Prop := ∀ c ∈ text, isBlank c = true

/-- What follows the blanks that a text begins with. -/
theorem trimStart_eq_iff {text rest : List Char} :
    trimStart text = rest ↔
      ∃ blanks, text = blanks ++ rest ∧ AreBlanks blanks ∧ Stops isBlank rest := by
  constructor
  · rintro rfl
    exact ⟨text.takeWhile isBlank, List.takeWhile_append_dropWhile.symm,
      fun _ => List.mem_takeWhile_imp, stops_dropWhile isBlank text⟩
  · rintro ⟨blanks, rfl, areBlanks, stops⟩
    exact dropWhile_append_of_stops areBlanks stops

/-- A text is trimmed to its middle part if only blanks stand before and behind that part, and the
part itself neither begins nor ends with a blank. -/
structure IsTrimmed (text middle : List Char) : Prop where
  splits : ∃ front back, text = front ++ (middle ++ back) ∧ AreBlanks front ∧ AreBlanks back
  begins : Stops isBlank middle
  ends : Stops isBlank middle.reverse

theorem stops_of_append {test : Char → Bool} {first second : List Char}
    (stops : Stops test (first ++ second)) : Stops test first := by
  cases first with
  | nil => exact stops_nil test
  | cons c first => simpa using stops

theorem isTrimmed_trim (text : List Char) : IsTrimmed text (trim text) := by
  obtain ⟨front, inFront, areFront, begins⟩ := trimStart_eq_iff.mp (Eq.refl (trimStart text))
  obtain ⟨back, behind, areBack, ends⟩ :=
    trimStart_eq_iff.mp (Eq.refl (trimStart (trimStart text).reverse))
  have whole : trimStart text = trim text ++ back.reverse := by
    rw [trim, trimEnd, ← List.reverse_append, ← behind, List.reverse_reverse]
  refine ⟨⟨front, back.reverse, ?_, areFront, ?_⟩, ?_, ?_⟩
  · rw [← whole]
    exact inFront
  · intro c member
    exact areBack c (List.mem_reverse.mp member)
  · rw [whole] at begins
    exact stops_of_append begins
  · rw [trim, trimEnd, List.reverse_reverse]
    exact ends

/-- There is one such part, also where it is empty, and trimming finds it. -/
theorem trim_eq_iff {text middle : List Char} : trim text = middle ↔ IsTrimmed text middle := by
  constructor
  · rintro rfl
    exact isTrimmed_trim text
  · rintro ⟨⟨front, back, rfl, areFront, areBack⟩, begins, ends⟩
    have areBackReversed : AreBlanks back.reverse := fun c member =>
      areBack c (List.mem_reverse.mp member)
    cases middle with
    | nil =>
        have allBlank : AreBlanks (front ++ back) := by
          intro c member
          rcases List.mem_append.mp member with inFront | inBack
          · exact areFront c inFront
          · exact areBack c inBack
        have nothing : trimStart (front ++ back) = [] := List.dropWhile_eq_nil_iff.mpr allBlank
        rw [List.nil_append, trim, nothing]
        rfl
    | cons c middle =>
        have fromFront : trimStart (front ++ (c :: middle ++ back)) = c :: middle ++ back :=
          dropWhile_append_of_stops areFront (by simpa using begins)
        have fromBack : trimStart (back.reverse ++ (c :: middle).reverse) = (c :: middle).reverse :=
          dropWhile_append_of_stops areBackReversed ends
        rw [trim, fromFront, trimEnd, List.reverse_append, fromBack, List.reverse_reverse]

/-! ## Blanks and names -/

theorem CodeSet.exists_range_of_holds {set : CodeSet} {code : Nat}
    (isHeld : set.holds code = true) :
    ∃ range ∈ set, code ∈ List.range' range.1 (range.2 + 1 - range.1) := by
  induction set with
  | nil => cases isHeld
  | cons range set ih =>
      obtain ⟨first, last⟩ := range
      rw [CodeSet.holds] at isHeld
      split at isHeld
      next => cases isHeld
      next isLater =>
        rw [Bool.or_eq_true, decide_eq_true_eq] at isHeld
        rcases isHeld with isBefore | isHeld
        · refine ⟨(first, last), by simp, List.mem_range'_1.mpr ?_⟩
          simp only
          omega
        · obtain ⟨range, member, inRange⟩ := ih isHeld
          exact ⟨range, List.mem_cons_of_mem _ member, inRange⟩

/-- No character is blank and part of a name. -/
theorem isNameChar_of_isBlank {c : Char} (blank : isBlank c = true) : isNameChar c = false := by
  have noName : ∀ range ∈ blankRanges, ∀ code ∈ List.range' range.1 (range.2 + 1 - range.1),
      (alphabeticRanges.holds code || numericRanges.holds code || decide (code = '_'.toNat)) =
        false := by
    decide +kernel
  obtain ⟨range, member, inRange⟩ := CodeSet.exists_range_of_holds blank
  have outside := noName range member c.toNat inRange
  rw [Bool.or_eq_false_iff] at outside
  rw [isNameChar, isAlphanumeric, isAlphabetic, isNumeric, outside.1, Bool.false_or]
  rw [decide_eq_false_iff_not] at outside
  exact beq_eq_false_iff_ne.mpr fun same => outside.2 (congrArg Char.toNat same)

theorem isBlank_of_isNameChar {c : Char} (isName : isNameChar c = true) : isBlank c = false := by
  by_contra notFalse
  have noName := isNameChar_of_isBlank (Bool.not_eq_false _ ▸ notFalse)
  rw [isName] at noName
  cases noName

end Polyview.Text
