import Polyview.Proofs.Markup.Reader

/-!
# Markup extensions

An attribute may hold an extension between braces: a name, a blank, and arguments with commas
between them, which may hold extensions of their own. A backslash takes its meaning from the
character behind it. A text is read in two steps, first as symbols and then as an extension, and the
second step can be turned around: a symbol list is read as an extension exactly if it spells one.
-/

namespace Polyview.Markup

/-! ## Symbols -/

/-- A mark with a meaning in extensions, or any other character. -/
inductive Symbol where
  | opening
  | closing
  | comma
  | char (c : Char)
  deriving DecidableEq, Repr

/-- What a character is where no backslash stands before it. -/
def symbolOf (c : Char) : Symbol :=
  if c = '{' then .opening
  else if c = '}' then .closing
  else if c = ',' then .comma
  else .char c

/-- The symbols of a text, whose first character may have a backslash before it. There are none if
nothing follows a backslash. -/
def symbolsFrom : (behindBackslash : Bool) → List Char → Option (List Symbol)
  | false, [] => some []
  | true, [] => none
  | true, c :: rest => (symbolsFrom false rest).map (.char c :: ·)
  | false, c :: rest =>
      if c = '\\' then symbolsFrom true rest
      else (symbolsFrom false rest).map (symbolOf c :: ·)

/-! ## Extensions -/

/-- What the content of an extension is made of. -/
inductive Part where
  | char (c : Char)
  | comma
  | extension (content : List Part)

/-- The content that says a text. -/
def saying (text : List Char) : List Part := text.map .char

/-- Reads up to the end of the outermost extension, and gives its content and what follows it. The
extensions around the one that is being read have begun with the contents `around`, from the inside
out. -/
def readOn (content : List Part) (around : List (List Part)) :
    List Symbol → Option (List Part × List Symbol)
  | [] => none
  | .char c :: rest => readOn (content ++ [.char c]) around rest
  | .comma :: rest => readOn (content ++ [.comma]) around rest
  | .opening :: rest => readOn [] (content :: around) rest
  | .closing :: rest =>
      match around with
      | [] => some (content, rest)
      | outer :: around => readOn (outer ++ [.extension content]) around rest

/-- An extension by its name and its arguments. -/
structure Extension where
  name : List Part
  arguments : List (List Part)

def Part.isBlank : Part → Bool
  | .char c => isSpace c
  | _ => false

def Part.isComma : Part → Bool
  | .comma => true
  | _ => false

/-- The name of an extension ends at the first blank. -/
def Extension.ofContent (content : List Part) : Extension where
  name := content.takeWhile fun part => !part.isBlank
  arguments :=
    match content.dropWhile fun part => !part.isBlank with
    | [] => []
    | _ :: rest => rest.splitOnP Part.isComma

/-- The extension that a whole text is. -/
def extension? (text : List Char) : Option Extension :=
  match symbolsFrom false text with
  | some (.opening :: symbols) =>
      match readOn [] [] symbols with
      | some (content, []) => some (.ofContent content)
      | _ => none
  | _ => none

/-! ## Spelled contents -/

mutual

def Part.spelled : Part → List Symbol
  | .char c => [.char c]
  | .comma => [.comma]
  | .extension content => .opening :: (spelledAll content ++ [.closing])

def spelledAll : List Part → List Symbol
  | [] => []
  | part :: rest => part.spelled ++ spelledAll rest

end

theorem spelledAll_append (first second : List Part) :
    spelledAll (first ++ second) = spelledAll first ++ spelledAll second := by
  induction first with
  | nil => rfl
  | cons part first ih => rw [List.cons_append, spelledAll, spelledAll, ih, List.append_assoc]

theorem spelledAll_saying (text : List Char) : spelledAll (saying text) = text.map .char := by
  induction text with
  | nil => rfl
  | cons c text ih =>
      rw [saying, List.map_cons, spelledAll, List.map_cons, ← saying, ih]
      rfl

mutual

theorem readOn_part : ∀ (part : Part) (content : List Part) (around : List (List Part))
    (rest : List Symbol),
    readOn content around (part.spelled ++ rest) = readOn (content ++ [part]) around rest
  | .char _, _, _, _ => rfl
  | .comma, _, _, _ => rfl
  | .extension inner, content, around, rest => by
      have inside := readOn_parts inner [] (content :: around) (.closing :: rest)
      rw [List.nil_append] at inside
      rw [Part.spelled, List.cons_append, readOn, List.append_assoc, List.singleton_append, inside]
      rfl

/-- What spells parts is read as these parts, whatever follows. -/
theorem readOn_parts : ∀ (parts : List Part) (content : List Part) (around : List (List Part))
    (rest : List Symbol),
    readOn content around (spelledAll parts ++ rest) = readOn (content ++ parts) around rest
  | [], content, around, rest => by rw [spelledAll, List.nil_append, List.append_nil]
  | part :: parts, content, around, rest => by
      have first := readOn_part part content around (spelledAll parts ++ rest)
      have later := readOn_parts parts (content ++ [part]) around rest
      rw [spelledAll, List.append_assoc, first, later, List.append_assoc, List.singleton_append]

end

/-- The symbols that have been read when an extension is open inside others. -/
def readBefore (content : List Part) : List (List Part) → List Symbol
  | [] => spelledAll content
  | outer :: around => readBefore outer around ++ .opening :: spelledAll content

theorem readBefore_append (content more : List Part) (around : List (List Part)) :
    readBefore (content ++ more) around = readBefore content around ++ spelledAll more := by
  cases around with
  | nil => exact spelledAll_append content more
  | cons outer around =>
      rw [readBefore, readBefore, spelledAll_append, List.append_assoc, List.cons_append]

/-- Nothing is lost while symbols are read. -/
theorem spelled_of_readOn {content whole : List Part} {around : List (List Part)}
    {symbols rest : List Symbol} (read : readOn content around symbols = some (whole, rest)) :
    readBefore content around ++ symbols = spelledAll whole ++ .closing :: rest := by
  induction symbols generalizing content around with
  | nil => cases read
  | cons symbol symbols ih =>
      cases symbol with
      | char c =>
          rw [← ih read, readBefore_append, List.append_assoc]
          rfl
      | comma =>
          rw [← ih read, readBefore_append, List.append_assoc]
          rfl
      | opening =>
          rw [← ih read, readBefore, List.append_assoc]
          rfl
      | closing =>
          cases around with
          | nil =>
              obtain ⟨rfl, rfl⟩ := Prod.mk.inj (Option.some.inj read)
              rfl
          | cons outer around =>
              rw [← ih read, readBefore_append, readBefore]
              simp [spelledAll, Part.spelled]

theorem readOn_eq_some_iff {content : List Part} {symbols rest : List Symbol} :
    readOn [] [] symbols = some (content, rest) ↔
      symbols = spelledAll content ++ .closing :: rest := by
  constructor
  · exact spelled_of_readOn
  · rintro rfl
    rw [readOn_parts, List.nil_append]
    rfl

theorem extension?_eq_some_iff {text : List Char} {extension : Extension} :
    extension? text = some extension ↔
      ∃ content, symbolsFrom false text =
          some (.opening :: (spelledAll content ++ [.closing])) ∧
        Extension.ofContent content = extension := by
  constructor
  · intro read
    unfold extension? at read
    split at read
    next symbols isOpened =>
      split at read
      next content isContent =>
        rw [isOpened, readOn_eq_some_iff.mp isContent]
        exact ⟨content, rfl, Option.some.inj read⟩
      next => cases read
    next => cases read
  · rintro ⟨content, isSpelled, rfl⟩
    have isContent : readOn [] [] (spelledAll content ++ [.closing]) = some (content, []) :=
      readOn_eq_some_iff.mpr rfl
    simp only [extension?, isSpelled, isContent]

/-! ## Names and arguments -/

/-- A list is cut into one piece only where it is not cut at all. -/
theorem eq_of_splitOnP_eq_singleton {p : Part → Bool} {parts piece : List Part}
    (isOne : parts.splitOnP p = [piece]) : parts = piece := by
  induction parts generalizing piece with
  | nil => simpa using isOne
  | cons part parts ih =>
      rw [List.splitOnP_cons_eq_if_modifyHead] at isOne
      split at isOne
      · exact absurd (List.cons.inj isOne).2 (List.splitOnP_ne_nil p parts)
      · cases cut : parts.splitOnP p with
        | nil => exact absurd cut (List.splitOnP_ne_nil p parts)
        | cons first others =>
            rw [cut, List.modifyHead_cons, List.cons.injEq] at isOne
            obtain ⟨rfl, rfl⟩ := isOne
            rw [ih cut]

theorem ofContent_saying {name text : List Char} (noBlank : name.any isSpace = false) :
    Extension.ofContent (saying (name ++ ' ' :: text)) = ⟨saying name, [saying text]⟩ := by
  have plain : ∀ part ∈ saying name, (!part.isBlank) = true := by
    intro part member
    obtain ⟨c, inName, rfl⟩ := List.mem_map.mp member
    simp [Part.isBlank, List.any_eq_false.mp noBlank c inName]
  have noComma : ∀ part ∈ saying text, part.isComma = false := by
    intro part member
    obtain ⟨c, -, rfl⟩ := List.mem_map.mp member
    rfl
  have isBlank : Part.isBlank (.char ' ') = true := by decide
  have parted : saying (name ++ ' ' :: text) = saying name ++ .char ' ' :: saying text := by
    simp [saying]
  rw [Extension.ofContent, parted, List.takeWhile_append_of_pos plain,
    List.dropWhile_append_of_pos plain, List.takeWhile_cons, List.dropWhile_cons]
  simp only [isBlank, Bool.not_true, Bool.false_eq_true, if_false, List.append_nil]
  rw [List.splitOnP_eq_singleton noComma]

/-- The content of an extension with one argument is the name, a blank and the argument. -/
theorem content_eq_of_ofContent {content name argument : List Part}
    (isExtension : Extension.ofContent content = ⟨name, [argument]⟩) :
    ∃ blank, content = name ++ blank :: argument := by
  obtain ⟨isName, isOne⟩ := Extension.mk.inj isExtension
  split at isOne
  next => cases isOne
  next blank rest isRest =>
    refine ⟨blank, ?_⟩
    rw [← isName, ← eq_of_splitOnP_eq_singleton isOne, ← isRest, List.takeWhile_append_dropWhile]

end Polyview.Markup
