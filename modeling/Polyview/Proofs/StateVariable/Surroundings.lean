import Mathlib.Data.List.Infix
import Polyview.StateVariable

/-!
# Declarations in longer texts

A declaration stays one when text is put before or behind it, so no piece of a text without
declarations holds one. Text without the first character of a mark changes nothing about the
declaration behind it.
-/

namespace Polyview.StateVariable

open Text

/-! ## The opening of a declaration -/

theorem afterWord?_eq_some {word text rest : List Char} :
    afterWord? word text = some rest ↔ text = word ++ rest := by
  unfold afterWord?
  constructor
  · intro found
    split at found
    next isPrefix =>
      obtain ⟨more, rfl⟩ := List.isPrefixOf_iff_prefix.mp isPrefix
      simpa using found
    next => cases found
  · rintro rfl
    rw [if_pos (List.isPrefixOf_iff_prefix.mpr (List.prefix_append word rest))]
    simp

theorem afterWord?_append {word text rest : List Char} (found : afterWord? word text = some rest)
    (more : List Char) : afterWord? word (text ++ more) = some (rest ++ more) := by
  rw [afterWord?_eq_some] at found ⊢
  rw [found, List.append_assoc]

theorem afterBlanks?_append {text rest : List Char} (found : afterBlanks? text = some rest)
    (notEmpty : rest ≠ []) (more : List Char) :
    afterBlanks? (text ++ more) = some (rest ++ more) := by
  cases text with
  | nil => cases found
  | cons c text =>
      rw [afterBlanks?] at found
      split at found
      next isBlank =>
        obtain rfl := Option.some.inj found
        have goesOn : trimStart (text ++ more) = trimStart text ++ more := by
          unfold trimStart at notEmpty ⊢
          rw [List.dropWhile_append, if_neg (by simpa using notEmpty)]
        rw [List.cons_append, afterBlanks?, if_pos isBlank, goesOn]
      next => cases found

/-- What comes before the name of a declaration: whether it says that the variable is private, and
what follows. -/
def opening? (text : List Char) : Option (Bool × List Char) := do
  let rest ← afterWord? mark text
  let rest ← afterBlanks? rest
  let isPrivate := (afterPrivate? rest).isSome
  let rest := (afterPrivate? rest).getD rest
  let rest ← afterWord? ['v', 'a', 'r'] rest
  let rest ← afterBlanks? rest
  return (isPrivate, rest)

theorem partsAt?_eq (text : List Char) :
    partsAt? text = (opening? text).bind fun opening =>
      (stretch? isNameChar opening.2).map fun (name, rest) =>
        { isPrivate := opening.1
          name := name
          typeName := (typeAnnotation? rest).map Prod.fst
          initial := initialValue? (((typeAnnotation? rest).map Prod.snd).getD rest) } := by
  unfold partsAt? opening?
  simp only [Option.bind_eq_bind, Option.bind_assoc, Option.pure_def, Option.bind_some,
    Option.map_eq_bind, Function.comp_def]

/-- Whether `private` stands before `var` does not depend on what follows. -/
theorem afterPrivate?_append {text afterVar : List Char}
    (isVar : afterWord? ['v', 'a', 'r'] ((afterPrivate? text).getD text) = some afterVar)
    (more : List Char) :
    afterPrivate? (text ++ more) = (afterPrivate? text).map fun rest => rest ++ more := by
  cases isPrivate : afterPrivate? text with
  | none =>
      rw [isPrivate, Option.getD_none, afterWord?_eq_some] at isVar
      rw [isVar]
      rfl
  | some rest =>
      have notEmpty : rest ≠ [] := by
        rintro rfl
        rw [isPrivate] at isVar
        cases isVar
      obtain ⟨afterWord, isWord, areBlanks⟩ := Option.bind_eq_some_iff.mp isPrivate
      have goesOn := afterBlanks?_append areBlanks notEmpty more
      exact Option.bind_eq_some_iff.mpr ⟨afterWord ++ more, afterWord?_append isWord more, goesOn⟩

/-- An opening that something follows is the opening of every longer text. -/
theorem opening?_append {text rest : List Char} {isPrivate : Bool}
    (found : opening? text = some (isPrivate, rest)) (notEmpty : rest ≠ []) (more : List Char) :
    opening? (text ++ more) = some (isPrivate, rest ++ more) := by
  simp only [opening?, Option.bind_eq_bind, Option.bind_eq_some_iff, Option.pure_def,
    Option.some.injEq, Prod.mk.injEq] at found ⊢
  obtain ⟨afterMark, isMark, visible, areBlanks, afterVar, isVar, name, areMoreBlanks, rfl, rfl⟩ :=
    found
  have afterVarNotEmpty : afterVar ≠ [] := by
    rintro rfl
    cases areMoreBlanks
  have visibleNotEmpty : visible ≠ [] := by
    rintro rfl
    cases isVar
  have samePrivate := afterPrivate?_append isVar more
  refine ⟨afterMark ++ more, afterWord?_append isMark more, visible ++ more,
    afterBlanks?_append areBlanks visibleNotEmpty more, afterVar ++ more, ?_, name ++ more,
    afterBlanks?_append areMoreBlanks notEmpty more, ?_, rfl⟩
  · have isVarLater := afterWord?_append isVar more
    rw [samePrivate]
    cases isPrivate : afterPrivate? visible with
    | none => simpa [isPrivate] using isVarLater
    | some afterPrivate => simpa [isPrivate] using isVarLater
  · rw [samePrivate, Option.isSome_map]

/-! ## Declarations -/

theorem isSome_stretch? (test : Char → Bool) (text : List Char) :
    (stretch? test text).isSome = text.head?.any test := by
  cases text with
  | nil => rfl
  | cons c rest =>
      unfold stretch?
      rw [List.takeWhile_cons]
      cases passes : test c <;> simp [passes]

/-- A declaration is an opening and at least one character of a name. -/
theorem isSome_partsAt? {text : List Char} :
    (partsAt? text).isSome ↔ ∃ isPrivate c rest,
      opening? text = some (isPrivate, c :: rest) ∧ isNameChar c = true := by
  rw [partsAt?_eq]
  cases opening : opening? text with
  | none => simp
  | some found =>
      obtain ⟨isPrivate, afterOpening⟩ := found
      rw [Option.bind_some, Option.isSome_map, isSome_stretch?]
      cases afterOpening with
      | nil => simp
      | cons c rest => simp

theorem isSome_partsAt?_append {text : List Char} (declares : (partsAt? text).isSome)
    (more : List Char) : (partsAt? (text ++ more)).isSome := by
  obtain ⟨isPrivate, c, rest, opening, isName⟩ := isSome_partsAt?.mp declares
  have openingLater := opening?_append opening (List.cons_ne_nil c rest) more
  exact isSome_partsAt?.mpr ⟨isPrivate, c, rest ++ more, openingLater, isName⟩

theorem isSome_parts?_cons (c : Char) (rest : List Char) :
    (parts? (c :: rest)).isSome = ((partsAt? (c :: rest)).isSome || (parts? rest).isSome) := by
  rw [parts?]
  cases partsAt? (c :: rest) <;> rfl

theorem isSome_parts?_append {text : List Char} (declares : (parts? text).isSome)
    (more : List Char) : (parts? (text ++ more)).isSome := by
  induction text with
  | nil => cases declares
  | cons c rest ih =>
      rw [isSome_parts?_cons, Bool.or_eq_true] at declares
      rw [List.cons_append, isSome_parts?_cons, Bool.or_eq_true]
      rcases declares with here | later
      · exact .inl (isSome_partsAt?_append here more)
      · exact .inr (ih later)

theorem isSome_parts?_prepend {text : List Char} (declares : (parts? text).isSome)
    (before : List Char) : (parts? (before ++ text)).isSome := by
  induction before with
  | nil => exact declares
  | cons c before ih => rw [List.cons_append, isSome_parts?_cons, ih, Bool.or_true]

/-- No piece of a text without declarations holds a declaration. -/
theorem parts?_eq_none_of_infix {piece text : List Char} (isPiece : piece <:+: text)
    (silent : parts? text = none) : parts? piece = none := by
  obtain ⟨before, after, rfl⟩ := isPiece
  by_contra declares
  have declaresLater := isSome_parts?_append
    (isSome_parts?_prepend (Option.isSome_iff_ne_none.mpr declares) before) after
  rw [silent] at declaresLater
  cases declaresLater

/-! ## Text without marks -/

theorem partsAt?_of_ne {c : Char} (notMark : c ≠ '@') (rest : List Char) :
    partsAt? (c :: rest) = none := by
  have noWord : afterWord? mark (c :: rest) = none := by
    rw [Option.eq_none_iff_forall_ne_some]
    intro after found
    rw [afterWord?_eq_some] at found
    exact notMark (List.cons.inj found).1
  unfold partsAt?
  rw [noWord]
  rfl

/-- What stands before a text and has no first character of a mark in it changes nothing. -/
theorem parts?_append_of_not_mem {before : List Char} (noMark : '@' ∉ before) (text : List Char) :
    parts? (before ++ text) = parts? text := by
  induction before with
  | nil => rfl
  | cons c before ih =>
      obtain ⟨notMark, noMark⟩ := not_or.mp (mt List.mem_cons.mpr noMark)
      rw [List.cons_append, parts?, partsAt?_of_ne (Ne.symm notMark)]
      exact ih noMark

theorem parts?_eq_none_of_not_mem {text : List Char} (noMark : '@' ∉ text) :
    parts? text = none := by
  simpa [parts?] using parts?_append_of_not_mem noMark []

/-! ## Lines -/

theorem isSome_ofLine? (line : List Char) : (ofLine? line).isSome = (parts? line).isSome := by
  rw [ofLine?, Option.isSome_map]

theorem ofLine?_eq_none {line : List Char} : ofLine? line = none ↔ parts? line = none := by
  rw [ofLine?, Option.map_eq_none_iff]

/-- A line that declares a variable still declares one with any text before and behind it, so no
piece of a line that declares none does. Behind text without the first character of a mark, like an
indent, it declares the same variable, on a longer line. -/
theorem declaration_withstands_surroundings (before line after : List Char) :
    ((ofLine? line).isSome → (ofLine? (before ++ line ++ after)).isSome) ∧
      (∀ piece, piece <:+: line → ofLine? line = none → ofLine? piece = none) ∧
      ('@' ∉ before → ofLine? (before ++ line) = (ofLine? line).map fun declared =>
        { declared with declaration := String.ofList (before ++ line) }) := by
  refine ⟨?_, ?_, ?_⟩
  · intro declares
    rw [isSome_ofLine?] at declares ⊢
    exact isSome_parts?_append (isSome_parts?_prepend declares before) after
  · intro piece isPiece silent
    rw [ofLine?_eq_none] at silent ⊢
    exact parts?_eq_none_of_infix isPiece silent
  · intro noMark
    rw [ofLine?, ofLine?, parts?_append_of_not_mem noMark, Option.map_map]
    rfl

/-- The name grows with the text behind it, and the broken mark in front does not hide the
declaration. -/
theorem declaration_withstands_surroundings_of_broken_mark :
    (ofLine? "@State var x".toList).isSome ∧
      (ofLine? ("@State @State ".toList ++ "@State var x".toList ++ "y = 1".toList)).isSome ∧
      ofLine? "@State var ".toList = none ∧ ofLine? "State".toList = none ∧
      '@' ∉ "\t// ".toList ∧
      ofLine? ("\t// ".toList ++ "@State var x".toList) =
        some ⟨"\t// @State var x", false, "x", "Any", none⟩ := by
  have declares : (ofLine? "@State var x".toList).isSome := by decide
  have silent : ofLine? "@State var ".toList = none := by decide
  have noMark : '@' ∉ "\t// ".toList := by decide
  have longer := declaration_withstands_surroundings "@State @State ".toList "@State var x".toList
    "y = 1".toList
  have shorter := declaration_withstands_surroundings [] "@State var ".toList []
  have indented := declaration_withstands_surroundings "\t// ".toList "@State var x".toList []
  refine ⟨declares, longer.1 declares, silent, shorter.2.1 _ (by decide) silent, noMark, ?_⟩
  rw [indented.2.2 noMark]
  decide

end Polyview.StateVariable
