import Polyview.Proofs.Escape.Markup

/-!
# Reading markup

A reader for elements with attributes between double quotes. Only blanks may stand between elements,
and a tag may not have two attributes of one name.
-/

namespace Polyview.Markup

/-- An element with its attributes and the elements directly inside it. -/
inductive Element where
  | mk (name : String) (attributes : List (String × String)) (children : List Element)

/-! ## Tags -/

def isSpace (c : Char) : Bool := c == ' ' || c == '\t' || c == '\n' || c == '\r'

def skipSpaces (text : List Char) : List Char := text.dropWhile isSpace

def isNameStart (c : Char) : Bool := c.isAlpha || c == ':' || c == '_'

def isNameChar (c : Char) : Bool := isNameStart c || c.isDigit || c == '-' || c == '.'

/-- A name, and the rest. -/
def readName : List Char → Option (String × List Char)
  | [] => none
  | c :: rest =>
      if isNameStart c then
        some (String.ofList (c :: rest.takeWhile isNameChar), rest.dropWhile isNameChar)
      else
        none

/-- A name with the value between double quotes after its equals sign, and the rest. -/
def readAttribute (text : List Char) : Option ((String × String) × List Char) := do
  let (name, rest) ← readName text
  match skipSpaces rest with
  | '=' :: rest =>
      match skipSpaces rest with
      | '"' :: rest => do
          let (value, rest) ← readUntil '"' rest
          return ((name, String.ofList value), rest)
      | _ => none
  | _ => none

/-- The attributes of a tag, whether the tag is that of an empty element, and what follows it. Each
attribute is set off by blanks, and there are no more of them than `fuel`. -/
def readAttributes (fuel : Nat) (text : List Char) :
    Option (List (String × String) × Bool × List Char) :=
  match fuel, skipSpaces text with
  | _, '/' :: '>' :: rest => some ([], true, rest)
  | _, '>' :: rest => some ([], false, rest)
  | 0, _ => none
  | fuel + 1, trimmed =>
      if trimmed.length = text.length then none
      else do
        let (first, rest) ← readAttribute trimmed
        let (attributes, isEmpty, rest) ← readAttributes fuel rest
        if (attributes.lookup first.1).isSome then none
        else return (first :: attributes, isEmpty, rest)

/-- A start tag or the tag of an empty element, and what follows it. -/
def readTag : List Char → Option (String × List (String × String) × Bool × List Char)
  | '<' :: rest => do
      let (name, rest) ← readName rest
      let (attributes, isEmpty, rest) ← readAttributes rest.length rest
      return (name, attributes, isEmpty, rest)
  | _ => none

def readEndTag (name : String) : List Char → Option (List Char)
  | '<' :: '/' :: rest => do
      let (found, rest) ← readName rest
      match skipSpaces rest with
      | '>' :: rest => if found = name then some rest else none
      | _ => none
  | _ => none

/-! ## Elements -/

mutual

def readElement (fuel : Nat) (text : List Char) : Option (Element × List Char) :=
  match fuel with
  | 0 => none
  | fuel + 1 => do
      let (name, attributes, isEmpty, rest) ← readTag text
      if isEmpty then return (.mk name attributes [], rest)
      else do
        let (children, rest) ← readChildren fuel (skipSpaces rest)
        let rest ← readEndTag name rest
        return (.mk name attributes children, rest)

/-- The elements up to an end tag, which is part of the rest. -/
def readChildren (fuel : Nat) (text : List Char) : Option (List Element × List Char) :=
  match fuel, text with
  | 0, _ => none
  | _ + 1, '<' :: '/' :: rest => some ([], '<' :: '/' :: rest)
  | fuel + 1, text => do
      let (element, rest) ← readElement fuel text
      let (later, rest) ← readChildren fuel (skipSpaces rest)
      return (element :: later, rest)

end

/-- The element that a whole text is the markup of. -/
def read? (text : List Char) : Option Element := do
  let (element, rest) ← readElement (text.length + 1) (skipSpaces text)
  if (skipSpaces rest).isEmpty then some element else none

/-! ## Written tags -/

def isName : List Char → Bool
  | [] => false
  | c :: rest => isNameStart c && rest.all isNameChar

/-- An attribute as it is written in a tag. -/
def writtenAttribute (name : String) (spelled : List Char) : List Char :=
  ' ' :: (name.toList ++ '=' :: '"' :: (spelled ++ ['"']))

section Written

variable {name value : String} {spelled : List Char}

theorem readName_append (named : isName name.toList = true) {c : Char}
    (ends : isNameChar c = false) (rest : List Char) :
    readName (name.toList ++ c :: rest) = some (name, c :: rest) := by
  cases spelling : name.toList with
  | nil => simp [spelling, isName] at named
  | cons first body =>
      rw [spelling, isName, Bool.and_eq_true] at named
      have all := List.all_eq_true.mp named.2
      have taken : (body ++ c :: rest).takeWhile isNameChar = body := by
        simp [List.takeWhile_append_of_pos all, ends]
      have dropped : (body ++ c :: rest).dropWhile isNameChar = c :: rest := by
        simp [List.dropWhile_append_of_pos all, ends]
      rw [List.cons_append, readName, if_pos named.1, taken, dropped, ← spelling,
        String.ofList_toList]

theorem readAttribute_append (named : isName name.toList = true)
    (decodes : Decodes '"' spelled value.toList) (rest : List Char) :
    readAttribute (name.toList ++ '=' :: '"' :: (spelled ++ '"' :: rest)) =
      some ((name, value), rest) := by
  have nameRead := readName_append named (show isNameChar '=' = false by decide)
    ('"' :: (spelled ++ '"' :: rest))
  have valueRead := decodes.readUntil_closing (by decide) rest
  simp [readAttribute, nameRead, valueRead, skipSpaces, isSpace]

theorem ne_of_isNameStart {c other : Char} (starts : isNameStart c = true)
    (notStart : isNameStart other = false) : c ≠ other := by
  rintro rfl
  simp [starts] at notStart

/-- Nothing is skipped that a name starts with. -/
theorem isSpace_of_isNameStart {c : Char} (starts : isNameStart c = true) : isSpace c = false := by
  have notBlank : c ≠ ' ' := ne_of_isNameStart starts (by decide)
  have notTab : c ≠ '\t' := ne_of_isNameStart starts (by decide)
  have notLineFeed : c ≠ '\n' := ne_of_isNameStart starts (by decide)
  have notReturn : c ≠ '\r' := ne_of_isNameStart starts (by decide)
  simp [isSpace, notBlank, notTab, notLineFeed, notReturn]

theorem readAttributes_append (named : isName name.toList = true)
    (decodes : Decodes '"' spelled value.toList) (fuel : Nat) (rest : List Char) :
    readAttributes (fuel + 1) (writtenAttribute name spelled ++ rest) =
      (readAttributes fuel rest).bind fun (attributes, isEmpty, rest) =>
        if (attributes.lookup name).isSome then none
        else some ((name, value) :: attributes, isEmpty, rest) := by
  have attributeRead := readAttribute_append named decodes rest
  cases spelling : name.toList with
  | nil => simp [spelling, isName] at named
  | cons first body =>
      rw [spelling, isName, Bool.and_eq_true] at named
      have notSlash : first ≠ '/' := ne_of_isNameStart named.1 (by decide)
      have notBracket : first ≠ '>' := ne_of_isNameStart named.1 (by decide)
      have trimmed : skipSpaces (writtenAttribute name spelled ++ rest) =
          first :: (body ++ '=' :: '"' :: (spelled ++ '"' :: rest)) := by
        simp [writtenAttribute, spelling, skipSpaces, show isSpace ' ' = true by decide,
          isSpace_of_isNameStart named.1]
      have isShorter : ¬(first :: (body ++ '=' :: '"' :: (spelled ++ '"' :: rest))).length =
          (writtenAttribute name spelled ++ rest).length := by
        simp only [writtenAttribute, spelling, List.length_append, List.length_cons,
          List.length_nil]
        omega
      rw [spelling, List.cons_append] at attributeRead
      rw [readAttributes.eq_def, trimmed]
      split
      next isEmptyEnd => exact absurd (List.cons.inj isEmptyEnd).1 notSlash
      next isEnd => exact absurd (List.cons.inj isEnd).1 notBracket
      next noFuel => contradiction
      next less sameFuel _ _ =>
        obtain rfl := Nat.succ.inj sameFuel
        rw [if_neg isShorter, attributeRead]
        simp only [Option.bind_eq_bind, Option.bind_some]
        rfl

theorem readAttributes_empty (fuel : Nat) (rest : List Char) :
    readAttributes fuel (' ' :: '/' :: '>' :: rest) = some ([], true, rest) := by
  cases fuel <;> rfl

theorem readAttributes_open (fuel : Nat) (rest : List Char) :
    readAttributes fuel ('>' :: rest) = some ([], false, rest) := by
  cases fuel <;> rfl

theorem readTag_append (named : isName name.toList = true) {c : Char}
    (ends : isNameChar c = false) (rest : List Char) :
    readTag ('<' :: (name.toList ++ c :: rest)) =
      (readAttributes (rest.length + 1) (c :: rest)).map fun (attributes, isEmpty, rest) =>
        (name, attributes, isEmpty, rest) := by
  rw [readTag, readName_append named ends]
  simp only [Option.bind_eq_bind, Option.bind_some, List.length_cons]
  cases readAttributes (rest.length + 1) (c :: rest) <;> rfl

theorem readEndTag_append (named : isName name.toList = true) (rest : List Char) :
    readEndTag name ('<' :: '/' :: (name.toList ++ '>' :: rest)) = some rest := by
  simp [readEndTag, readName_append named (show isNameChar '>' = false by decide), skipSpaces,
    show isSpace '>' = false by decide]

end Written

/-! ## Written elements -/

theorem readElement_empty {text rest : List Char} {name : String}
    {attributes : List (String × String)} (tag : readTag text = some (name, attributes, true, rest))
    (fuel : Nat) : readElement (fuel + 1) text = some (.mk name attributes [], rest) := by
  simp [readElement, tag]

theorem readElement_children {text inside ending rest : List Char} {name : String}
    {attributes : List (String × String)} {children : List Element} {fuel : Nat}
    (tag : readTag text = some (name, attributes, false, inside))
    (read : readChildren fuel (skipSpaces inside) = some (children, ending))
    (ended : readEndTag name ending = some rest) :
    readElement (fuel + 1) text = some (.mk name attributes children, rest) := by
  simp [readElement, tag, read, ended]

theorem readChildren_end (fuel : Nat) (rest : List Char) :
    readChildren (fuel + 1) ('<' :: '/' :: rest) = some ([], '<' :: '/' :: rest) := by
  rfl

theorem readChildren_element {c : Char} {text rest : List Char} {element : Element} {fuel : Nat}
    (notEnd : c ≠ '/') (read : readElement fuel ('<' :: c :: text) = some (element, rest)) :
    readChildren (fuel + 1) (skipSpaces ('<' :: c :: text)) =
      (readChildren fuel (skipSpaces rest)).map fun (later, rest) => (element :: later, rest) := by
  have flush : skipSpaces ('<' :: c :: text) = '<' :: c :: text := by
    simp [skipSpaces, show isSpace '<' = false by decide]
  rw [flush, readChildren.eq_3 _ _ (by simp [notEnd]), read]
  cases later : readChildren fuel (skipSpaces rest) <;> simp [later]

end Polyview.Markup
