import Mathlib.Tactic.SplitIfs
import Polyview.Escape.Markup

/-!
# Reading values in markup

A reader for texts with entities, up to a closing mark. It takes what is escaped for an attribute or
for a binding path, and tells the guard and the marks of a binding path from the value itself.
-/

namespace Polyview.Markup

/-! ## Entities -/

/-- A text up to a closing mark, and what follows the mark. The five entities stand for their
characters. No other ampersand and no opening angle bracket may stand in the text. -/
def readUntil (closing : Char) : List Char → Option (List Char × List Char)
  | '&' :: 'a' :: 'm' :: 'p' :: ';' :: rest =>
      (readUntil closing rest).map fun (text, rest) => ('&' :: text, rest)
  | '&' :: 'l' :: 't' :: ';' :: rest =>
      (readUntil closing rest).map fun (text, rest) => ('<' :: text, rest)
  | '&' :: 'g' :: 't' :: ';' :: rest =>
      (readUntil closing rest).map fun (text, rest) => ('>' :: text, rest)
  | '&' :: 'q' :: 'u' :: 'o' :: 't' :: ';' :: rest =>
      (readUntil closing rest).map fun (text, rest) => ('"' :: text, rest)
  | '&' :: 'a' :: 'p' :: 'o' :: 's' :: ';' :: rest =>
      (readUntil closing rest).map fun (text, rest) => ('\x27' :: text, rest)
  | c :: rest =>
      if c = closing then some ([], rest)
      else if c = '&' ∨ c = '<' then none
      else (readUntil closing rest).map fun (text, rest) => (c :: text, rest)
  | [] => none

/-- Whether a character stands for itself between marks of a kind. -/
def isLiteral (closing c : Char) : Bool := c != closing && c != '&' && c != '<'

theorem readUntil_literal {closing c : Char} (literal : isLiteral closing c = true)
    (rest : List Char) :
    readUntil closing (c :: rest) =
      (readUntil closing rest).map fun (text, rest) => (c :: text, rest) := by
  simp only [isLiteral, Bool.and_eq_true, bne_iff_ne] at literal
  obtain ⟨⟨notClosing, notAmpersand⟩, notBracket⟩ := literal
  have plain : ¬(c = '&' ∨ c = '<') := by simp [notAmpersand, notBracket]
  rw [readUntil.eq_6 closing c rest (by simp [notAmpersand]) (by simp [notAmpersand])
    (by simp [notAmpersand]) (by simp [notAmpersand]) (by simp [notAmpersand]), if_neg notClosing,
    if_neg plain]

/-- A spelling that is read as a text, whatever follows it. -/
def Decodes (closing : Char) (spelled text : List Char) : Prop :=
  ∀ rest, readUntil closing (spelled ++ rest) =
    (readUntil closing rest).map fun (more, rest) => (text ++ more, rest)

namespace Decodes

variable {closing : Char}

theorem nil : Decodes closing [] [] := by
  intro rest
  simp

theorem append {first second text more : List Char} (one : Decodes closing first text)
    (two : Decodes closing second more) : Decodes closing (first ++ second) (text ++ more) := by
  intro rest
  rw [List.append_assoc, one, two, Option.map_map]
  congr 1
  funext ⟨further, rest⟩
  simp

theorem flatMap {spell meant : Char → List Char}
    (each : ∀ c, Decodes closing (spell c) (meant c)) (text : List Char) :
    Decodes closing (text.flatMap spell) (text.flatMap meant) := by
  induction text with
  | nil => exact nil
  | cons c text ih =>
      rw [List.flatMap_cons, List.flatMap_cons]
      exact (each c).append ih

theorem ofLiteral {text : List Char} (literal : text.all (isLiteral closing) = true) :
    Decodes closing text text := by
  induction text with
  | nil => exact nil
  | cons c text ih =>
      rw [List.all_cons, Bool.and_eq_true] at literal
      intro rest
      rw [List.cons_append, readUntil_literal literal.1, ih literal.2, Option.map_map]
      rfl

/-- The closing mark ends the text that has been read. -/
theorem readUntil_closing {spelled text : List Char} (decodes : Decodes closing spelled text)
    (notAmpersand : closing ≠ '&') (rest : List Char) :
    readUntil closing (spelled ++ closing :: rest) = some (text, rest) := by
  have ended : readUntil closing (closing :: rest) = some ([], rest) := by
    rw [readUntil.eq_6 closing closing rest (by simp [notAmpersand]) (by simp [notAmpersand])
      (by simp [notAmpersand]) (by simp [notAmpersand]) (by simp [notAmpersand]), if_pos rfl]
  rw [decodes, ended]
  simp

end Decodes

/-- A character with an entity may not stand for itself, so that it can be a closing mark. -/
theorem decodes_entityChar {closing : Char} (hasEntity : entityChar closing ≠ [closing])
    (c : Char) : Decodes closing (entityChar c) [c] := by
  unfold entityChar
  split_ifs with isAmpersand isOpening isClosing isQuote isApostrophe
  · subst isAmpersand
    exact fun rest => rfl
  · subst isOpening
    exact fun rest => rfl
  · subst isClosing
    exact fun rest => rfl
  · subst isQuote
    exact fun rest => rfl
  · subst isApostrophe
    exact fun rest => rfl
  · apply Decodes.ofLiteral
    have notClosing : c ≠ closing := by
      rintro rfl
      simp [entityChar, isAmpersand, isOpening, isClosing, isQuote, isApostrophe] at hasEntity
    simp [isLiteral, notClosing, isAmpersand, isOpening]

/-! ## Attributes -/

/-- The value of an attribute without the guard before it. -/
def unguarded : List Char → List Char
  | '{' :: '}' :: value => value
  | value => value

/-- A value that begins with empty braces of its own keeps them. -/
theorem unguarded_guard (value : List Char) : unguarded (guard value ++ value) = value := by
  unfold guard
  split_ifs with isGuarded
  · rfl
  · cases value with
    | nil => rfl
    | cons c rest =>
        have notBrace : c ≠ '{' := by simpa using isGuarded
        simp [unguarded, notBrace]

theorem decodes_attributeText (value : String) :
    Decodes '"' (attributeText value).toList (guard value.toList ++ value.toList) := by
  have each (c : Char) : Decodes '"' (entityChar c) [c] := decodes_entityChar (by decide) c
  have body := Decodes.flatMap each value.toList
  have guarded : Decodes '"' (guard value.toList) (guard value.toList) := by
    apply Decodes.ofLiteral
    unfold guard
    split_ifs <;> rfl
  rw [List.flatMap_singleton'] at body
  simpa [attributeText, entities] using guarded.append body

/-! ## Binding paths -/

/-- A character of a binding path with its mark. -/
def markedChar (c : Char) : List Char := if isExtensionMark c then ['\\', c] else [c]

/-- A value as a binding path says it. -/
def marked (value : List Char) : List Char := value.flatMap markedChar

def unmarked : List Char → List Char
  | '\\' :: c :: rest =>
      if isExtensionMark c then c :: unmarked rest else '\\' :: unmarked (c :: rest)
  | c :: rest => c :: unmarked rest
  | [] => []

theorem decodes_pathChar (c : Char) : Decodes '"' (pathChar c) (markedChar c) := by
  unfold pathChar markedChar
  split_ifs with isMark
  · simp only [isExtensionMark, Bool.or_eq_true, beq_iff_eq] at isMark
    apply Decodes.ofLiteral
    rcases isMark with (rfl | rfl) | rfl <;> rfl
  · exact decodes_entityChar (by decide) c

theorem decodes_pathText (value : String) :
    Decodes '"' (pathText value).toList (marked value.toList) := by
  simpa [pathText, marked] using Decodes.flatMap decodes_pathChar value.toList

/-- A mark of a binding path never stands without a backslash. -/
theorem head?_marked (value : List Char) {c : Char} (isMark : isExtensionMark c = true) :
    (marked value).head? ≠ some c := by
  cases value with
  | nil => simp [marked]
  | cons first rest =>
      rw [marked, List.flatMap_cons, markedChar]
      split_ifs with isFirstMark
      · rintro same
        obtain rfl : '\\' = c := by simpa using same
        contradiction
      · rintro same
        obtain rfl : first = c := by simpa using same
        contradiction

/-- A backslash of the value itself stands before a mark only if the mark has one, too. -/
theorem unmarked_backslash (value : List Char) :
    unmarked ('\\' :: marked value) = '\\' :: unmarked (marked value) := by
  cases spelled : marked value with
  | nil => rfl
  | cons c rest =>
      have notMark : ¬isExtensionMark c = true := by
        intro isMark
        exact head?_marked value isMark (by rw [spelled]; rfl)
      rw [unmarked, if_neg notMark]

theorem unmarked_marked (value : List Char) : unmarked (marked value) = value := by
  induction value with
  | nil => rfl
  | cons c rest ih =>
      have whole : marked (c :: rest) = markedChar c ++ marked rest := rfl
      rw [whole, markedChar]
      split_ifs with isMark
      · rw [List.cons_append, List.cons_append, List.nil_append, unmarked, if_pos isMark, ih]
      · by_cases isBackslash : c = '\\'
        · subst isBackslash
          rw [List.singleton_append, unmarked_backslash, ih]
        · rw [List.singleton_append, unmarked.eq_2 _ _ (by simp [isBackslash]), ih]

end Polyview.Markup
