import Polyview.Proofs.Markup.Reader
import Polyview.Proofs.Markup.Text

/-!
# Reading documents

A document is an element, which may have a declaration and a document type before it. Between the
tags of an element stand characters and other elements, in turns. Whatever the reader takes is well
formed; comments, sections of literal characters and further instructions are not read.
-/

namespace Polyview.Markup

/-- What may stand in a document: characters, or an element with its attributes and its content. -/
inductive Item where
  | text (value : String)
  | element (name : String) (attributes : List (String × String)) (content : List Item)

namespace Item

mutual

/-- The elements of a name, in the order of their start tags. -/
def named (name : String) : Item → List Item
  | .text _ => []
  | .element found attributes content =>
      if found = name then .element found attributes content :: namedAll name content
      else namedAll name content

def namedAll (name : String) : List Item → List Item
  | [] => []
  | item :: rest => item.named name ++ namedAll name rest

end

/-- The characters directly inside an element. -/
def characters : Item → String
  | .text value => value
  | .element _ _ content =>
      String.join <| content.map fun
        | .text value => value
        | .element .. => ""

end Item

/-! ## Elements -/

mutual

def readItem (fuel : Nat) (text : List Char) : Option (Item × List Char) :=
  match fuel with
  | 0 => none
  | fuel + 1 => do
      let (name, attributes, isEmpty, rest) ← readTag text
      if isEmpty then return (.element name attributes [], rest)
      else do
        let (content, rest) ← readContent fuel rest
        let rest ← readEndTag name rest
        return (.element name attributes content, rest)

/-- What stands before an end tag, which is part of the rest. -/
def readContent (fuel : Nat) (text : List Char) : Option (List Item × List Char) :=
  match fuel with
  | 0 => none
  | fuel + 1 => do
      let (characters, rest) ← readText .beforeTag none text
      match rest with
      | '/' :: rest => return ([.text (String.ofList characters)], '<' :: '/' :: rest)
      | rest => do
          let (item, rest) ← readItem fuel ('<' :: rest)
          let (later, rest) ← readContent fuel rest
          return (.text (String.ofList characters) :: item :: later, rest)

end

/-! ## Documents -/

/-- A text whose lines end with line feeds alone. -/
def withLineFeeds : List Char → List Char
  | '\r' :: '\n' :: rest => '\n' :: withLineFeeds rest
  | '\r' :: rest => '\n' :: withLineFeeds rest
  | c :: rest => c :: withLineFeeds rest
  | [] => []

/-- What follows a closing bracket, where brackets between quotes do not count. There may be an open
quote, and there may be no further part in square brackets. -/
def afterBracket : (quote : Option Char) → List Char → Option (List Char)
  | _, [] => none
  | none, c :: rest =>
      if c = '>' then some rest
      else if c = '[' then none
      else if c = '"' ∨ c = '\x27' then afterBracket (some c) rest
      else afterBracket none rest
  | some quote, c :: rest => afterBracket (if c = quote then none else some quote) rest

/-- What follows a part of a document that is optional and has a beginning of its own. -/
def afterOptional (beginning text : List Char) : Option (List Char) :=
  if beginning.isPrefixOf text then afterBracket none text else some text

/-- The element that a document consists of. -/
def document? (text : List Char) : Option Item :=
  if text.all isDocumentChar then do
    let rest ← afterOptional "<?xml ".toList (withLineFeeds text)
    let rest ← afterOptional "<!DOCTYPE ".toList (skipSpaces rest)
    let (item, rest) ← readItem (rest.length + 1) (skipSpaces rest)
    if (skipSpaces rest).isEmpty then some item else none
  else none

/-! ## Written content -/

/-- An element without attributes as it is written. -/
def writtenElement (name : String) (spelled : List Char) : List Char :=
  '<' :: (name.toList ++ '>' :: (spelled ++ '<' :: '/' :: (name.toList ++ ['>'])))

/-- What is read as a content before any end tag, if there is enough fuel. -/
def IsContent (least : Nat) (spelled : List Char) (content : List Item) : Prop :=
  ∀ fuel, least ≤ fuel → ∀ rest,
    readContent fuel (spelled ++ '<' :: '/' :: rest) = some (content, '<' :: '/' :: rest)

section Written

variable {name : String} {attributes : List (String × String)} {text inside ending rest : List Char}
variable {content later : List Item}

theorem readItem_content {fuel : Nat}
    (tag : readTag text = some (name, attributes, false, inside))
    (read : readContent fuel inside = some (content, ending))
    (ended : readEndTag name ending = some rest) :
    readItem (fuel + 1) text = some (.element name attributes content, rest) := by
  simp [readItem, tag, read, ended]

/-- Between a start tag and the end tag of its name stands the content of an element. -/
theorem IsContent.readItem {least : Nat} {spelled : List Char}
    (isContent : IsContent least spelled content) (isName : isName name.toList = true)
    (tag : readTag text =
      some (name, attributes, false, spelled ++ '<' :: '/' :: (name.toList ++ '>' :: rest)))
    {fuel : Nat} (enough : least < fuel) :
    readItem fuel text = some (.element name attributes content, rest) := by
  obtain ⟨fuel, rfl⟩ := Nat.exists_eq_add_of_lt (Nat.zero_lt_of_lt enough)
  rw [Nat.zero_add] at enough ⊢
  exact readItem_content tag (isContent fuel (Nat.le_of_lt_succ enough) _)
    (readEndTag_append isName rest)

theorem readText_beforeTag (characters rest : List Char) :
    readText .beforeTag none (entities characters ++ '<' :: rest) = some (characters, rest) := by
  have read := readText_entities_closing .beforeTag characters rest
  rwa [show TextPlace.beforeTag.image = id from rfl, List.map_id,
    show TextPlace.beforeTag.closing = '<' from rfl] at read

theorem isContent_text (characters : List Char) :
    IsContent 1 (entities characters) [.text (String.ofList characters)] := by
  intro fuel enough rest
  obtain ⟨fuel, rfl⟩ := Nat.exists_eq_add_of_le' enough
  rw [readContent, readText_beforeTag]
  rfl

/-- Characters, an element without attributes, and further content. -/
theorem IsContent.element {least least' : Nat} {spelled more : List Char}
    (isContent : IsContent least spelled content) (isLater : IsContent least' more later)
    (isName : isName name.toList = true) (characters : List Char) :
    IsContent (max (least + 2) (least' + 1))
      (entities characters ++ (writtenElement name spelled ++ more))
      (.text (String.ofList characters) :: .element name [] content :: later) := by
  intro fuel enough rest
  obtain ⟨fuel, rfl⟩ : ∃ less, fuel = less + 1 := ⟨fuel - 1, by omega⟩
  obtain ⟨first, body, isList⟩ := List.exists_cons_of_ne_nil
    (show name.toList ≠ [] by
      intro isEmpty
      rw [isEmpty] at isName
      cases isName)
  have notSlash : first ≠ '/' := by
    rw [isList, Markup.isName, Bool.and_eq_true] at isName
    exact ne_of_isNameStart isName.1 (by decide)
  -- The element as it stands before everything that follows it.
  have whole : writtenElement name spelled ++ (more ++ '<' :: '/' :: rest) =
      '<' :: (name.toList ++ '>' :: (spelled ++ '<' :: '/' :: (name.toList ++ '>' ::
        (more ++ '<' :: '/' :: rest)))) := by
    simp [writtenElement]
  have tag := readTag_append isName (show isNameChar '>' = false by decide)
    (spelled ++ '<' :: '/' :: (name.toList ++ '>' :: (more ++ '<' :: '/' :: rest)))
  rw [readAttributes_open, Option.map_some] at tag
  have item := isContent.readItem isName tag (show least < fuel by omega)
  have laterRead := isLater fuel (by omega) rest
  rw [List.append_assoc, List.append_assoc, whole, readContent, readText_beforeTag]
  rw [isList] at item ⊢
  simp only [Option.bind_eq_bind, Option.bind_some, List.cons_append] at item ⊢
  split
  next isSlash => exact absurd (List.cons.inj isSlash).1 notSlash
  next => simp [item, laterRead]

end Written

/-! ## Before the element -/

theorem withLineFeeds_of_notMem {text : List Char} (noReturn : '\r' ∉ text) :
    withLineFeeds text = text := by
  induction text with
  | nil => rfl
  | cons c text ih =>
      obtain ⟨notReturn, noReturn⟩ := not_or.mp (mt List.mem_cons.mpr noReturn)
      rw [withLineFeeds, ih noReturn]
      · rintro rest rfl
        exact absurd rfl notReturn
      · rintro rfl
        exact absurd rfl notReturn

/-- A character that is read as it is written, wherever it stands. -/
def isLineChar (c : Char) : Bool := isDocumentChar c && c != '\r'

theorem all_isLineChar_iff (text : List Char) :
    text.all isLineChar = true ↔ text.all isDocumentChar = true ∧ '\r' ∉ text := by
  simp only [isLineChar, List.all_eq_true, Bool.and_eq_true, bne_iff_ne]
  constructor
  · intro areLineChars
    exact ⟨fun c member => (areLineChars c member).1, fun member => (areLineChars _ member).2 rfl⟩
  · rintro ⟨allowed, noReturn⟩ c member
    exact ⟨allowed c member, fun isReturn => noReturn (isReturn ▸ member)⟩

theorem afterBracket_append {quote : Option Char} {text after : List Char}
    (found : afterBracket quote text = some after) (rest : List Char) :
    afterBracket quote (text ++ rest) = some (after ++ rest) := by
  induction text generalizing quote with
  | nil => cases quote <;> cases found
  | cons c text ih =>
      rw [List.cons_append]
      cases quote with
      | some quote => exact ih found
      | none =>
          rw [afterBracket] at found ⊢
          split
          next isEnd =>
            rw [if_pos isEnd] at found
            rw [Option.some.inj found]
          next notEnd =>
            rw [if_neg notEnd] at found
            split
            next isRefused =>
              rw [if_pos isRefused] at found
              cases found
            next notRefused =>
              rw [if_neg notRefused] at found
              split
              next isQuote =>
                rw [if_pos isQuote] at found
                exact ih found
              next notQuote =>
                rw [if_neg notQuote] at found
                exact ih found

/-- An optional part that stands at the beginning is passed, whatever follows it. -/
theorem afterOptional_append {beginning part : List Char} (begins : beginning <+: part)
    (isWhole : afterBracket none part = some []) (rest : List Char) :
    afterOptional beginning (part ++ rest) = some rest := by
  have isPrefix : beginning.isPrefixOf (part ++ rest) = true :=
    List.isPrefixOf_iff_prefix.mpr (begins.trans (List.prefix_append part rest))
  rw [afterOptional, if_pos isPrefix, afterBracket_append isWhole, List.nil_append]

end Polyview.Markup
