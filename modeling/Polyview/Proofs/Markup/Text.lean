import Polyview.Proofs.Escape.Markup

/-!
# Texts in documents

The texts in a document, which are the values of attributes and the characters between tags, may
have references in them that stand for characters. A reader for such texts gives back what has been
written with entities, up to the blanks that the value of an attribute cannot keep.
-/

namespace Polyview.Markup

/-- A character that a document may have in it. -/
def isDocumentChar (c : Char) : Bool :=
  c == '\t' || c == '\n' || c == '\r' ||
    (0x20 ≤ c.toNat && c.toNat != 0xFFFE && c.toNat != 0xFFFF)

/-! ## References -/

def digitChars : List Char :=
  ['0', '1', '2', '3', '4', '5', '6', '7', '8', '9', 'a', 'b', 'c', 'd', 'e', 'f']

def digitValue? (base : Nat) (c : Char) : Option Nat := (digitChars.take base).idxOf? c.toLower

/-- The character of a document that has a number, by the digits of the number. -/
def numbered? (base : Nat) (digits : List Char) : Option Char := do
  let values ← digits.mapM (digitValue? base)
  let number := values.foldl (fun number value => base * number + value) 0
  if number.isValidChar ∧ isDocumentChar (Char.ofNat number) then some (Char.ofNat number) else none

/-- What a reference stands for, by the text between its marks. -/
def referenced? : List Char → Option Char
  | ['a', 'm', 'p'] => some '&'
  | ['l', 't'] => some '<'
  | ['g', 't'] => some '>'
  | ['q', 'u', 'o', 't'] => some '"'
  | ['a', 'p', 'o', 's'] => some '\x27'
  | '#' :: 'x' :: digits => numbered? 16 digits
  | '#' :: digits => numbered? 10 digits
  | _ => none

/-! ## Reading -/

/-- A place where a text may stand. What closes it and what it may not have in it have entities. -/
structure TextPlace where
  closing : Char
  refused : Char
  /-- What a character is read as that is not written as a reference. -/
  image : Char → Char
  closing_hasEntity : entityChar closing ≠ [closing]
  closing_notAmpersand : closing ≠ '&'
  refused_hasEntity : entityChar refused ≠ [refused]
  refused_notAmpersand : refused ≠ '&'
  image_of_hasEntity : ∀ c, entityChar c ≠ [c] → image c = c

/-- A text up to its closing mark, and what follows the mark. A reference may have been begun, whose
characters are given backwards. -/
def readText (place : TextPlace) :
    (reference : Option (List Char)) → List Char → Option (List Char × List Char)
  | _, [] => none
  | none, c :: rest =>
      if c = place.closing then some ([], rest)
      else if c = place.refused then none
      else if c = '&' then readText place (some []) rest
      else (readText place none rest).map fun (text, rest) => (place.image c :: text, rest)
  | some begun, c :: rest =>
      if c = ';' then
        (referenced? begun.reverse).bind fun meant =>
          (readText place none rest).map fun (text, rest) => (meant :: text, rest)
      else readText place (some (c :: begun)) rest

/-- A blank in the value of an attribute is read as a space. -/
def asSpace (c : Char) : Char := if c = '\t' ∨ c = '\n' ∨ c = '\r' then ' ' else c

namespace TextPlace

/-- The value of an attribute between double quotes. -/
def inQuotes : TextPlace where
  closing := '"'
  refused := '<'
  image := asSpace
  closing_hasEntity := by decide
  closing_notAmpersand := by decide
  refused_hasEntity := by decide
  refused_notAmpersand := by decide
  image_of_hasEntity := by
    intro c hasEntity
    refine if_neg fun isBlank => hasEntity ?_
    rcases isBlank with rfl | rfl | rfl <;> rfl

/-- The characters before a tag. A closing bracket among them has to be a reference, which it need
not be everywhere. -/
def beforeTag : TextPlace where
  closing := '<'
  refused := '>'
  image := id
  closing_hasEntity := by decide
  closing_notAmpersand := by decide
  refused_hasEntity := by decide
  refused_notAmpersand := by decide
  image_of_hasEntity := fun _ _ => rfl

end TextPlace

variable {place : TextPlace}

theorem readText_closing (rest : List Char) :
    readText place none (place.closing :: rest) = some ([], rest) := by
  rw [readText, if_pos rfl]

theorem readText_ampersand (rest : List Char) :
    readText place none ('&' :: rest) = readText place (some []) rest := by
  rw [readText, if_neg (Ne.symm place.closing_notAmpersand),
    if_neg (Ne.symm place.refused_notAmpersand), if_pos rfl]

theorem readText_entityChar (c : Char) (rest : List Char) :
    readText place none (entityChar c ++ rest) =
      (readText place none rest).map fun (text, rest) => (place.image c :: text, rest) := by
  by_cases hasEntity : entityChar c = [c]
  · have notClosing : c ≠ place.closing := by
      rintro rfl
      exact place.closing_hasEntity hasEntity
    have notRefused : c ≠ place.refused := by
      rintro rfl
      exact place.refused_hasEntity hasEntity
    have notAmpersand : c ≠ '&' := by
      rintro rfl
      exact absurd hasEntity (by decide)
    rw [hasEntity, List.singleton_append, readText, if_neg notClosing, if_neg notRefused,
      if_neg notAmpersand]
  · rw [place.image_of_hasEntity c hasEntity]
    unfold entityChar at hasEntity ⊢
    split_ifs at hasEntity ⊢ with isAmpersand isOpening isClosing isQuote isApostrophe
    · subst isAmpersand
      exact readText_ampersand _
    · subst isOpening
      exact readText_ampersand _
    · subst isClosing
      exact readText_ampersand _
    · subst isQuote
      exact readText_ampersand _
    · subst isApostrophe
      exact readText_ampersand _
    · exact absurd rfl hasEntity

/-- What is written with entities is read as the images of its characters, whatever follows. -/
theorem readText_entities (text rest : List Char) :
    readText place none (entities text ++ rest) =
      (readText place none rest).map fun (more, rest) => (text.map place.image ++ more, rest) := by
  induction text with
  | nil => simp [entities]
  | cons c text ih =>
      rw [entities, List.flatMap_cons, List.append_assoc, readText_entityChar, ← entities, ih,
        Option.map_map]
      rfl

theorem readText_entities_closing (place : TextPlace) (text rest : List Char) :
    readText place none (entities text ++ place.closing :: rest) =
      some (text.map place.image, rest) := by
  rw [readText_entities, readText_closing]
  simp

/-- What is true of all characters of a text and of all entities is true of all characters that are
written. -/
theorem all_entities {p : Char → Bool} (inEntities : "&amp;&lt;&gt;&quot;&apos;".toList.all p = true)
    {text : List Char} (allowed : text.all p = true) : (entities text).all p = true := by
  have each (c : Char) (isAllowed : p c = true) : (entityChar c).all p = true := by
    simp only [String.reduceToList, List.all_cons, List.all_nil, Bool.and_true,
      Bool.and_eq_true] at inEntities
    unfold entityChar
    split_ifs <;> simp [inEntities, isAllowed]
  rw [entities, List.all_flatMap, List.all_eq_true]
  exact fun c member => each c (List.all_eq_true.mp allowed c member)

theorem all_guard {p : Char → Bool} (inGuard : "\x7b\x7d".toList.all p = true) (text : List Char) :
    (guard text).all p = true := by
  unfold guard
  split_ifs
  · exact inGuard
  · rfl

/-! ## Values of attributes -/

/-- The value of an attribute, by its text with the quotes around it. -/
def attributeValue? : List Char → Option (List Char)
  | '"' :: body =>
      if body.all isDocumentChar then
        match readText .inQuotes none body with
        | some (value, []) => some value
        | _ => none
      else none
  | _ => none

/-- The guard needs no entities. -/
theorem toList_attributeText (value : String) :
    (attributeText value).toList = entities (guard value.toList ++ value.toList) := by
  have unchanged : (guard value.toList).flatMap entityChar = guard value.toList := by
    unfold guard
    split_ifs <;> rfl
  rw [attributeText, String.toList_ofList, entities, entities, List.flatMap_append, unchanged]

theorem guard_map_asSpace (value : List Char) : guard (value.map asSpace) = guard value := by
  cases value with
  | nil => rfl
  | cons c value =>
      have sameBrace : asSpace c = '{' ↔ c = '{' := by
        unfold asSpace
        split
        next isBlank => rcases isBlank with rfl | rfl | rfl <;> decide
        next => rfl
      simp [guard, sameBrace]

theorem unguarded_map_asSpace (value : List Char) :
    unguarded ((guard value ++ value).map asSpace) = value.map asSpace := by
  have unchanged : (guard value).map asSpace = guard value := by
    unfold guard
    split_ifs <;> rfl
  rw [List.map_append, unchanged, ← guard_map_asSpace, unguarded_guard]

theorem map_asSpace_eq_self_iff (value : List Char) :
    value.map asSpace = value ↔ '\t' ∉ value ∧ '\n' ∉ value ∧ '\r' ∉ value := by
  induction value with
  | nil => simp
  | cons c value ih =>
      have kept : asSpace c = c ↔ c ≠ '\t' ∧ c ≠ '\n' ∧ c ≠ '\r' := by
        unfold asSpace
        split
        next isBlank => rcases isBlank with rfl | rfl | rfl <;> decide
        next notBlank => simpa using notBlank
      simp only [List.map_cons, List.cons.injEq, kept, ih, List.mem_cons, not_or]
      grind

theorem attributeValue?_attributeText {value : String}
    (allowed : value.toList.all isDocumentChar = true) :
    attributeValue? ('"' :: ((attributeText value).toList ++ ['"'])) =
      some ((guard value.toList ++ value.toList).map asSpace) := by
  have guardAllowed : (guard value.toList).all isDocumentChar = true :=
    all_guard (by decide) value.toList
  have bodyAllowed : ((attributeText value).toList ++ ['"']).all isDocumentChar = true := by
    have written : (entities (guard value.toList ++ value.toList)).all isDocumentChar = true :=
      all_entities (by decide) (by rw [List.all_append, guardAllowed, allowed]; rfl)
    rw [toList_attributeText, List.all_append, written]
    decide
  have read := readText_entities_closing .inQuotes (guard value.toList ++ value.toList) []
  rw [attributeValue?, if_pos bodyAllowed, toList_attributeText]
  simp only [show ['"'] = [TextPlace.inQuotes.closing] from rfl, read]
  rfl

/-- The text of an attribute can always be read, and is then, without a guard, the value that it was
made for with a space for each tab, line feed and return. So it is this value exactly if there are
none of them. -/
theorem attribute_value_reads_back_iff (value : String)
    (allowed : value.toList.all isDocumentChar = true) :
    ∃ read, attributeValue? ('"' :: ((attributeText value).toList ++ ['"'])) = some read ∧
      unguarded read = value.toList.map asSpace ∧
      (unguarded read = value.toList ↔
        '\t' ∉ value.toList ∧ '\n' ∉ value.toList ∧ '\r' ∉ value.toList) := by
  refine ⟨_, attributeValue?_attributeText allowed, unguarded_map_asSpace _, ?_⟩
  rw [unguarded_map_asSpace, map_asSpace_eq_self_iff]

/-- The value begins with empty braces, as a guard does, and has an entity and a quote in it. -/
theorem attribute_value_reads_back_of_braces :
    ("\x7b\x7d &lt; \"" : String).toList.all isDocumentChar = true ∧
    ∃ read, attributeValue? ('"' :: ((attributeText "\x7b\x7d &lt; \"").toList ++ ['"'])) =
        some read ∧
      unguarded read = "\x7b\x7d &lt; \"".toList := by
  have allowed : ("\x7b\x7d &lt; \"" : String).toList.all isDocumentChar = true := by decide
  obtain ⟨read, isRead, -, readsBack⟩ := attribute_value_reads_back_iff "\x7b\x7d &lt; \"" allowed
  exact ⟨allowed, read, isRead, readsBack.mpr (by decide)⟩

/-- A line feed of the value becomes a space. Written as a reference, it would not. -/
theorem attribute_value_can_lose_line_feed :
    attributeValue? ('"' :: ((attributeText "a\nb").toList ++ ['"'])) = some "a b".toList ∧
    attributeValue? "\"a&#10;b\"".toList = some "a\nb".toList := by
  decide

end Polyview.Markup
