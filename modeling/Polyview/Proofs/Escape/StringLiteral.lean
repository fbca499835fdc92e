import Mathlib.Tactic.SplitIfs
import Polyview.Escape.StringLiteral

/-!
# Reading string literals

A reader for the bodies of string literals. It takes an escaped text up to its closing quote, and
gives back the text.
-/

namespace Polyview.StringLiteral

/-- The character that an escape stands for. -/
def meantBy? (c : Char) : Option Char :=
  if c = '\\' ∨ c = '"' then some c
  else if c = 'n' then some '\n'
  else if c = 'r' then some '\r'
  else if c = 't' then some '\t'
  else none

/-- The text of a literal up to the first quote that is not escaped, and what follows the quote. A
literal has neither line breaks nor other escapes. -/
def readBody : List Char → Option (List Char × List Char)
  | '"' :: rest => some ([], rest)
  | '\\' :: escape :: rest => do
      let c ← meantBy? escape
      let (body, rest) ← readBody rest
      return (c :: body, rest)
  | c :: rest =>
      if c = '\\' ∨ c = '\n' ∨ c = '\r' then none
      else do
        let (body, rest) ← readBody rest
        return (c :: body, rest)
  | [] => none

theorem readBody_escape {c escape : Char} (isEscape : meantBy? escape = some c)
    (rest : List Char) :
    readBody ('\\' :: escape :: rest) =
      (readBody rest).map fun (body, rest) => (c :: body, rest) := by
  rw [readBody, isEscape]
  cases readBody rest <;> rfl

theorem readBody_plain {c : Char} (notQuote : ¬c = '"')
    (plain : ¬(c = '\\' ∨ c = '\n' ∨ c = '\r')) (rest : List Char) :
    readBody (c :: rest) = (readBody rest).map fun (body, rest) => (c :: body, rest) := by
  have notBackslash : ¬c = '\\' := fun isBackslash => plain (.inl isBackslash)
  rw [readBody.eq_3 c rest (by simpa using notQuote) (by simp [notBackslash]), if_neg plain]
  cases readBody rest <;> rfl

/-- A character is read off as one, however it was written. -/
theorem readBody_escapedChar (c : Char) (rest : List Char) :
    readBody (escapedChar c ++ rest) =
      (readBody rest).map fun (body, rest) => (c :: body, rest) := by
  unfold escapedChar
  split_ifs with isBackslash isQuote isLineFeed isReturn isTab
  · subst isBackslash
    exact readBody_escape rfl rest
  · subst isQuote
    exact readBody_escape rfl rest
  · subst isLineFeed
    exact readBody_escape rfl rest
  · subst isReturn
    exact readBody_escape rfl rest
  · subst isTab
    exact readBody_escape rfl rest
  · exact readBody_plain isQuote (by simp [isBackslash, isLineFeed, isReturn]) rest

theorem escapedChar_of_plain {c : Char} (plain : isSpecial c = false) : escapedChar c = [c] := by
  have others : c ≠ '\\' ∧ c ≠ '"' ∧ c ≠ '\n' ∧ c ≠ '\r' ∧ c ≠ '\t' := by
    simpa [isSpecial] using plain
  simp [escapedChar, others]

theorem length_escapedChar (c : Char) :
    (escapedChar c).length = if isSpecial c then 2 else 1 := by
  cases special : isSpecial c with
  | false => rw [escapedChar_of_plain special]; rfl
  | true =>
      have oneOf : c = '\\' ∨ c = '"' ∨ c = '\n' ∨ c = '\r' ∨ c = '\t' := by
        simpa [isSpecial] using special
      rcases oneOf with rfl | rfl | rfl | rfl | rfl <;> rfl

/-- Escaping a text makes it longer by one character for each special one. -/
theorem length_escaped (text : List Char) :
    (escaped text).length = text.length + text.countP isSpecial := by
  induction text with
  | nil => rfl
  | cons c text ih =>
      rw [escaped, List.flatMap_cons, List.length_append, length_escapedChar, List.countP_cons,
        List.length_cons]
      change _ + (escaped text).length = _
      split_ifs <;> omega

/-- A text is kept exactly if it has no special characters. -/
theorem escaped_eq_self_iff (text : List Char) :
    escaped text = text ↔ text.any isSpecial = false := by
  constructor
  · intro kept
    have noneSpecial : text.countP isSpecial = 0 := by
      have longer := length_escaped text
      rw [kept] at longer
      omega
    rw [List.countP_eq_zero] at noneSpecial
    simpa using noneSpecial
  · intro plain
    induction text with
    | nil => rfl
    | cons c text ih =>
        rw [List.any_cons, Bool.or_eq_false_iff] at plain
        rw [escaped, List.flatMap_cons, escapedChar_of_plain plain.1]
        exact congrArg (c :: ·) (ih plain.2)

theorem toList_escape (text : String) : (escape text).toList = escaped text.toList := by
  unfold escape
  split_ifs with hasSpecial
  · exact String.toList_ofList
  · exact ((escaped_eq_self_iff text.toList).mpr (Bool.eq_false_iff.mpr hasSpecial)).symm

/-- An escaped text is read up to the quote that follows it, whatever stands behind. -/
theorem readBody_escaped (text rest : List Char) :
    readBody (escaped text ++ '"' :: rest) = some (text, rest) := by
  induction text with
  | nil => rfl
  | cons c text ih =>
      have later : readBody (text.flatMap escapedChar ++ '"' :: rest) = some (text, rest) := ih
      rw [escaped, List.flatMap_cons, List.append_assoc, readBody_escapedChar, later]
      rfl

/-- An escaped text and what follows its quote can be told from the whole. -/
theorem escaped_append_injective {text other rest otherRest : List Char}
    (same : escaped text ++ '"' :: rest = escaped other ++ '"' :: otherRest) :
    text = other ∧ rest = otherRest := by
  have read := readBody_escaped text rest
  rw [same, readBody_escaped] at read
  simp_all

/-- The body for a text is read up to the quote that follows it and gives the text, whatever stands
behind. This holds where the characters are escaped one by one and where the text is kept, which is
done for exactly the texts that escaping leaves alone. -/
theorem literal_ends_at_its_quote (text : String) (rest : List Char) :
    readBody ((escape text).toList ++ '"' :: rest) = some (text.toList, rest) ∧
      readBody (escaped text.toList ++ '"' :: rest) = some (text.toList, rest) ∧
      (escape text = text ↔ text.toList.any isSpecial = false) := by
  have read := readBody_escaped text.toList rest
  refine ⟨?_, read, ?_⟩
  · rw [toList_escape]
    exact read
  · rw [← escaped_eq_self_iff, ← toList_escape, String.toList_inj]

/-- A quote behind backslashes does not end a literal early, nor does a backslash in front of the
closing quote keep it open. -/
example : readBody ((escape "\\\"\\").toList ++ ['"', '"']) =
    some (['\\', '"', '\\'], ['"']) := by
  decide

end Polyview.StringLiteral
