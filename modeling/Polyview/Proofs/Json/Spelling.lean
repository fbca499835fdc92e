import Polyview.Json.Cursor
import Polyview.Json.Printer

/-!
# Spellings of JSON values

A value can be spelled with blanks wherever they stand between the parts of it. The two printers
choose different blanks, so a reader that understands every spelling understands both of them.

Numbers are left out: nothing that is written here holds one.
-/

namespace Polyview.Json

def IsGap (text : List Char) : Prop := ∀ c ∈ text, Cursor.isGap c = true

theorem isGap_nil : IsGap [] := by
  simp [IsGap]

theorem isGap_space : IsGap [' '] := by
  simp [IsGap, Cursor.isGap]

theorem isGap_newLine (level : Nat) : IsGap (Value.newLine level) := by
  intro c member
  rcases List.mem_cons.1 member with lineFeed | space
  · subst c
    rfl
  · rw [List.eq_of_mem_replicate space]
    rfl

/-- What can be spelled: a value, or what follows the opening bracket of a list or an object, or
one of its items or members, up to and with the closing bracket. -/
inductive Piece where
  | value (value : Value)
  | items (isFirst : Bool) (items : List Value)
  | members (isFirst : Bool) (members : List (String × Value))

/-- The comma before every item or member but the first. -/
def comma (isFirst : Bool) : List Char := if isFirst then [] else [',']

/-- What stands before an item or a member: the comma with blanks on both sides, or blanks alone
before the first one. -/
def lead (isFirst : Bool) (gap space : List Char) : List Char :=
  if isFirst then space else gap ++ ',' :: space

theorem comma_append (isFirst : Bool) (gap : List Char) :
    comma isFirst ++ gap = lead isFirst [] gap := by
  cases isFirst <;> rfl

/-- The ways to spell a piece. -/
inductive Spells : Piece → List Char → Prop where
  | null : Spells (.value .null) ['n', 'u', 'l', 'l']
  | yes : Spells (.value (.boolean true)) ['t', 'r', 'u', 'e']
  | no : Spells (.value (.boolean false)) ['f', 'a', 'l', 's', 'e']
  | text (text : String) : Spells (.value (.text text)) (writtenText text)
  | list {items : List Value} {chars : List Char} (inside : Spells (.items true items) chars) :
      Spells (.value (.list items)) ('[' :: chars)
  | object {members : List (String × Value)} {chars : List Char}
      (inside : Spells (.members true members) chars) :
      Spells (.value (.object members)) ('{' :: chars)
  | noItem (isFirst : Bool) {gap : List Char} (isGap : IsGap gap) :
      Spells (.items isFirst []) (gap ++ [']'])
  | item (isFirst : Bool) {gap chars more : List Char} {item : Value} {items : List Value}
      (isGap : IsGap gap) (first : Spells (.value item) chars)
      (later : Spells (.items false items) more) :
      Spells (.items isFirst (item :: items)) (comma isFirst ++ gap ++ chars ++ more)
  | noMember (isFirst : Bool) {gap : List Char} (isGap : IsGap gap) :
      Spells (.members isFirst []) (gap ++ ['}'])
  | member (isFirst : Bool) (name : String) {gap space chars more : List Char} {value : Value}
      {members : List (String × Value)} (isGap : IsGap gap) (isSpace : IsGap space)
      (first : Spells (.value value) chars) (later : Spells (.members false members) more) :
      Spells (.members isFirst ((name, value) :: members))
        (comma isFirst ++ gap ++ writtenText name ++ ':' :: space ++ chars ++ more)

namespace Value

mutual

/-- Whether no number stands in a value. -/
def isNumberless : Value → Bool
  | .number _ => false
  | .list items => areNumberless items
  | .object members => haveNumberless members
  | .null | .boolean _ | .text _ => true

def areNumberless : List Value → Bool
  | [] => true
  | item :: rest => item.isNumberless && areNumberless rest

def haveNumberless : List (String × Value) → Bool
  | [] => true
  | (_, value) :: rest => value.isNumberless && haveNumberless rest

end

mutual

/-- The text without blanks spells its value. -/
theorem spells_compactChars : (value : Value) → value.isNumberless = true →
    Spells (.value value) value.compactChars
  | .null, _ => .null
  | .boolean true, _ => .yes
  | .boolean false, _ => .no
  | .number _, numberless => by simp [isNumberless] at numberless
  | .text plain, _ => .text plain
  | .list items, numberless => by
      have inside := spells_compactItems items (by simpa [isNumberless] using numberless) true
      simpa [compactChars, comma] using Spells.list inside
  | .object members, numberless => by
      have inside := spells_compactMembers members (by simpa [isNumberless] using numberless) true
      simpa [compactChars, comma] using Spells.object inside

theorem spells_compactItems : (items : List Value) → areNumberless items = true →
    (isFirst : Bool) →
    Spells (.items isFirst items)
      ((if items = [] then [] else comma isFirst) ++ compactItems items ++ [']'])
  | [], _, _ => by simpa [compactItems] using Spells.noItem _ isGap_nil
  | [item], numberless, isFirst => by
      have first := spells_compactChars item (by simpa [areNumberless] using numberless)
      simpa [compactItems] using
        Spells.item isFirst isGap_nil first (.noItem _ isGap_nil)
  | item :: next :: rest, numberless, isFirst => by
      simp only [areNumberless, Bool.and_eq_true] at numberless
      have first := spells_compactChars item numberless.1
      have later := spells_compactItems (next :: rest)
        (by simpa [areNumberless] using numberless.2) false
      simpa [compactItems, comma] using Spells.item isFirst isGap_nil first later

theorem spells_compactMembers : (members : List (String × Value)) →
    haveNumberless members = true → (isFirst : Bool) →
    Spells (.members isFirst members)
      ((if members = [] then [] else comma isFirst) ++ compactMembers members ++ ['}'])
  | [], _, _ => by simpa [compactMembers] using Spells.noMember _ isGap_nil
  | [(name, value)], numberless, isFirst => by
      have first := spells_compactChars value (by simpa [haveNumberless] using numberless)
      simpa [compactMembers] using
        Spells.member isFirst name isGap_nil isGap_nil first
          (.noMember _ isGap_nil)
  | (name, value) :: next :: rest, numberless, isFirst => by
      simp only [haveNumberless, Bool.and_eq_true] at numberless
      have first := spells_compactChars value numberless.1
      have later := spells_compactMembers (next :: rest)
        (by simpa [haveNumberless] using numberless.2) false
      simpa [compactMembers, comma] using
        Spells.member isFirst name isGap_nil isGap_nil first later

end

mutual

/-- The text that is laid out for people spells its value. -/
theorem spells_prettyChars : (value : Value) → value.isNumberless = true → (level : Nat) →
    Spells (.value value) (value.prettyChars level)
  | .null, _, _ => .null
  | .boolean true, _, _ => .yes
  | .boolean false, _, _ => .no
  | .number _, numberless, _ => by simp [isNumberless] at numberless
  | .text plain, _, _ => .text plain
  | .list [], _, _ => .list (.noItem _ isGap_nil)
  | .list (item :: rest), numberless, level => by
      have inside := spells_prettyItems (item :: rest) (by simp)
        (by simpa [isNumberless] using numberless) true (level + 1) level (level + 1)
      simpa [prettyChars, comma] using Spells.list inside
  | .object [], _, _ => .object (.noMember _ isGap_nil)
  | .object (member :: rest), numberless, level => by
      have inside := spells_prettyMembers (member :: rest) (by simp)
        (by simpa [isNumberless] using numberless) true (level + 1) level (level + 1)
      simpa [prettyChars, comma] using Spells.object inside

theorem spells_prettyItems : (items : List Value) → items ≠ [] → areNumberless items = true →
    (isFirst : Bool) → (before after level : Nat) →
    Spells (.items isFirst items)
      (comma isFirst ++ newLine before ++ prettyItems level items ++ newLine after ++ [']'])
  | [], nonempty, _, _, _, _, _ => absurd rfl nonempty
  | [item], _, numberless, isFirst, before, after, level => by
      have first := spells_prettyChars item (by simpa [areNumberless] using numberless) level
      simpa [prettyItems] using
        Spells.item isFirst (isGap_newLine before) first
          (.noItem _ (isGap_newLine after))
  | item :: next :: rest, _, numberless, isFirst, before, after, level => by
      simp only [areNumberless, Bool.and_eq_true] at numberless
      have first := spells_prettyChars item numberless.1 level
      have later := spells_prettyItems (next :: rest) (by simp)
        (by simpa [areNumberless] using numberless.2) false level after level
      simpa [prettyItems, comma] using
        Spells.item isFirst (isGap_newLine before) first later

theorem spells_prettyMembers : (members : List (String × Value)) → members ≠ [] →
    haveNumberless members = true → (isFirst : Bool) → (before after level : Nat) →
    Spells (.members isFirst members)
      (comma isFirst ++ newLine before ++ prettyMembers level members ++ newLine after ++ ['}'])
  | [], nonempty, _, _, _, _, _ => absurd rfl nonempty
  | [(name, value)], _, numberless, isFirst, before, after, level => by
      have first := spells_prettyChars value (by simpa [haveNumberless] using numberless) level
      simpa [prettyMembers] using
        Spells.member isFirst name (isGap_newLine before) isGap_space first
          (.noMember _ (isGap_newLine after))
  | (name, value) :: next :: rest, _, numberless, isFirst, before, after, level => by
      simp only [haveNumberless, Bool.and_eq_true] at numberless
      have first := spells_prettyChars value numberless.1 level
      have later := spells_prettyMembers (next :: rest) (by simp)
        (by simpa [haveNumberless] using numberless.2) false level after level
      simpa [prettyMembers, comma] using
        Spells.member isFirst name (isGap_newLine before) isGap_space first
          later

end

end Value

end Polyview.Json
