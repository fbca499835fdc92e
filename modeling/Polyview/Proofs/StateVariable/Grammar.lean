import Polyview.Proofs.StateVariable.Surroundings
import Polyview.Proofs.Text.Run

/-!
# The grammar of declarations

What a declaration looks like is said apart from how it is read: an opening, a name, perhaps a type
and perhaps an initial value, each as long as it can be. A line declares a variable exactly if a
declaration starts anywhere in it, and the leftmost one says which variable.
-/

namespace Polyview.StateVariable

open Text

/-! ## Openings -/

/-- Blanks between two words of a declaration. -/
structure IsGap (text : List Char) : Prop where
  notEmpty : text ≠ []
  areBlanks : AreBlanks text

/-- What stands before the name of a declaration, and whether it says that the variable is
private. -/
inductive Opens : Bool → List Char → Prop
  | visible {first last : List Char} (gap : IsGap first) (lastGap : IsGap last) :
      Opens false (mark ++ (first ++ (['v', 'a', 'r'] ++ last)))
  | hidden {first middle last : List Char} (gap : IsGap first) (middleGap : IsGap middle)
      (lastGap : IsGap last) :
      Opens true
        (mark ++ (first ++ (['p', 'r', 'i', 'v', 'a', 't', 'e'] ++ (middle ++
          (['v', 'a', 'r'] ++ last)))))

/-- A declaration starts a text: an opening and at least one character of a name. -/
def StartsDeclaration (text : List Char) : Prop :=
  ∃ isPrivate opening name rest, text = opening ++ (name ++ rest) ∧ Opens isPrivate opening ∧
    name ≠ [] ∧ ∀ c ∈ name, isNameChar c = true

theorem afterBlanks?_eq_some {text rest : List Char} :
    afterBlanks? text = some rest ↔
      ∃ gap, text = gap ++ rest ∧ IsGap gap ∧ Stops isBlank rest := by
  cases text with
  | nil =>
      rw [afterBlanks?]
      constructor
      · intro found
        cases found
      · rintro ⟨gap, whole, isGap, -⟩
        exact absurd (List.append_eq_nil_iff.mp whole.symm).1 isGap.notEmpty
  | cons c text =>
      rw [afterBlanks?]
      constructor
      · intro found
        split at found
        next blank =>
          obtain ⟨blanks, whole, areBlanks, stops⟩ :=
            trimStart_eq_iff.mp (Option.some.inj found)
          refine ⟨c :: blanks, by rw [whole, List.cons_append], ⟨List.cons_ne_nil c blanks, ?_⟩,
            stops⟩
          exact List.forall_mem_cons.mpr ⟨blank, areBlanks⟩
        next => cases found
      · rintro ⟨gap, whole, isGap, stops⟩
        obtain ⟨d, blanks, rfl⟩ := List.exists_cons_of_ne_nil isGap.notEmpty
        rw [List.cons_append] at whole
        obtain ⟨rfl, rfl⟩ := List.cons.inj whole
        obtain ⟨blank, areBlanks⟩ := List.forall_mem_cons.mp isGap.areBlanks
        have stripped : trimStart (blanks ++ rest) = rest :=
          trimStart_eq_iff.mpr ⟨blanks, rfl, areBlanks, stops⟩
        rw [if_pos blank, stripped]

theorem afterPrivate?_eq_some {text rest : List Char} :
    afterPrivate? text = some rest ↔ ∃ gap,
      text = ['p', 'r', 'i', 'v', 'a', 't', 'e'] ++ (gap ++ rest) ∧ IsGap gap ∧
        Stops isBlank rest := by
  rw [afterPrivate?, Option.bind_eq_bind, Option.bind_eq_some_iff]
  simp only [afterWord?_eq_some, afterBlanks?_eq_some]
  constructor
  · rintro ⟨after, rfl, gap, rfl, isGap, stops⟩
    exact ⟨gap, rfl, isGap, stops⟩
  · rintro ⟨gap, rfl, isGap, stops⟩
    exact ⟨gap ++ rest, rfl, gap, rfl, isGap, stops⟩

/-- A variable is not called private where its `var` stands already. -/
theorem afterPrivate?_var (text : List Char) :
    afterPrivate? (['v', 'a', 'r'] ++ text) = none := by
  rw [Option.eq_none_iff_forall_ne_some]
  intro rest found
  obtain ⟨gap, whole, -⟩ := afterPrivate?_eq_some.mp found
  cases whole

theorem opening?_eq_some {text rest : List Char} {isPrivate : Bool} :
    opening? text = some (isPrivate, rest) ↔
      ∃ opening, text = opening ++ rest ∧ Opens isPrivate opening ∧ Stops isBlank rest := by
  simp only [opening?, Option.bind_eq_bind, Option.bind_eq_some_iff, Option.pure_def,
    Option.some.injEq, Prod.mk.injEq, afterWord?_eq_some, afterBlanks?_eq_some]
  constructor
  · rintro ⟨_, rfl, shown, ⟨first, rfl, firstGap, -⟩, _, whole, _, ⟨last, rfl, lastGap, stops⟩,
      rfl, rfl⟩
    cases isPrivate : afterPrivate? shown with
    | none =>
        rw [isPrivate, Option.getD_none] at whole
        subst whole
        exact ⟨_, by simp only [List.append_assoc], .visible firstGap lastGap, stops⟩
    | some afterPrivate =>
        rw [isPrivate, Option.getD_some] at whole
        subst whole
        obtain ⟨middle, rfl, middleGap, -⟩ := afterPrivate?_eq_some.mp isPrivate
        exact ⟨_, by simp only [List.append_assoc], .hidden firstGap middleGap lastGap, stops⟩
  · rintro ⟨opening, rfl, opens, stops⟩
    cases opens with
    | @visible first last firstGap lastGap =>
        have noPrivate := afterPrivate?_var (last ++ rest)
        refine ⟨first ++ (['v', 'a', 'r'] ++ (last ++ rest)), by simp only [List.append_assoc],
          ['v', 'a', 'r'] ++ (last ++ rest), ⟨first, rfl, firstGap, ?_⟩, last ++ rest, ?_, rest,
          ⟨last, rfl, lastGap, stops⟩, ?_, rfl⟩
        · exact stops_cons.mpr (by decide)
        · rw [noPrivate, Option.getD_none]
        · rw [noPrivate, Option.isSome_none]
    | @hidden first middle last firstGap middleGap lastGap =>
        have isPrivate : afterPrivate? (['p', 'r', 'i', 'v', 'a', 't', 'e'] ++ (middle ++
            (['v', 'a', 'r'] ++ (last ++ rest)))) = some (['v', 'a', 'r'] ++ (last ++ rest)) :=
          afterPrivate?_eq_some.mpr ⟨middle, rfl, middleGap, stops_cons.mpr (by decide)⟩
        refine ⟨first ++ (['p', 'r', 'i', 'v', 'a', 't', 'e'] ++ (middle ++
            (['v', 'a', 'r'] ++ (last ++ rest)))), by simp only [List.append_assoc],
          ['p', 'r', 'i', 'v', 'a', 't', 'e'] ++ (middle ++ (['v', 'a', 'r'] ++ (last ++ rest))),
          ⟨first, rfl, firstGap, ?_⟩, last ++ rest, ?_, rest, ⟨last, rfl, lastGap, stops⟩, ?_, rfl⟩
        · exact stops_cons.mpr (by decide)
        · rw [isPrivate, Option.getD_some]
        · rw [isPrivate, Option.isSome_some]

/-! ## Names, types and initial values -/

theorem stretch?_eq_some {test : Char → Bool} {text run rest : List Char} :
    stretch? test text = some (run, rest) ↔ IsLongestRun test text run rest := by
  rw [isLongestRun_iff, stretch?]
  split
  next nothing =>
    refine ⟨nofun, ?_⟩
    rintro ⟨rfl, -, notEmpty⟩
    exact absurd nothing notEmpty
  next something =>
    rw [Option.some.injEq, Prod.mk.injEq]
    constructor
    · rintro ⟨rfl, rfl⟩
      exact ⟨rfl, rfl, something⟩
    · rintro ⟨rfl, rfl, -⟩
      exact ⟨rfl, rfl⟩

/-- A text goes on with a word of one character, after blanks if there are any. -/
theorem afterWord?_trimStart_eq_some {c : Char} (notBlank : isBlank c = false)
    {text rest : List Char} :
    afterWord? [c] (trimStart text) = some rest ↔
      ∃ blanks, text = blanks ++ c :: rest ∧ AreBlanks blanks := by
  rw [afterWord?_eq_some, List.singleton_append, trimStart_eq_iff]
  constructor
  · rintro ⟨blanks, whole, areBlanks, -⟩
    exact ⟨blanks, whole, areBlanks⟩
  · rintro ⟨blanks, whole, areBlanks⟩
    exact ⟨blanks, whole, areBlanks, stops_cons.mpr notBlank⟩

/-- What follows a name goes on with a type: a colon, before which blanks may stand, and a run that
reaches to the next equals sign. -/
def IsTyped (text typeText rest : List Char) : Prop :=
  ∃ blanks afterColon, text = blanks ++ ':' :: afterColon ∧ AreBlanks blanks ∧
    IsLongestRun (fun c => c != '=') afterColon typeText rest

/-- The type of a variable, without the blanks around it, and what follows it. -/
inductive TypeIs (text : List Char) : Option (List Char) → List Char → Prop
  | declared {typeText middle rest : List Char} (isTyped : IsTyped text typeText rest)
      (isTrimmed : IsTrimmed typeText middle) : TypeIs text (some middle) rest
  | missing (notTyped : ∀ typeText rest, ¬ IsTyped text typeText rest) : TypeIs text none text

/-- What follows the name or the type goes on with an initial value: an equals sign, with blanks
before and behind it as far as there are any, and a run that reaches to the end of the line. -/
def IsInitialized (text value : List Char) : Prop :=
  ∃ blanks moreBlanks visible rest, text = blanks ++ '=' :: (moreBlanks ++ visible) ∧
    AreBlanks blanks ∧ AreBlanks moreBlanks ∧ Stops isBlank visible ∧
      IsLongestRun (fun c => c != '\n' && c != '\r') visible value rest

inductive InitialIs (text : List Char) : Option (List Char) → Prop
  | given {value : List Char} (isInitialized : IsInitialized text value) :
      InitialIs text (some value)
  | missing (notInitialized : ∀ value, ¬ IsInitialized text value) : InitialIs text none

theorem typeAnnotation?_eq_some {text middle rest : List Char} :
    typeAnnotation? text = some (middle, rest) ↔
      ∃ typeText, IsTyped text typeText rest ∧ IsTrimmed typeText middle := by
  simp only [typeAnnotation?, Option.bind_eq_bind, Option.bind_eq_some_iff, Option.pure_def,
    Option.some.injEq, Prod.mk.injEq, Prod.exists, stretch?_eq_some,
    afterWord?_trimStart_eq_some (show isBlank ':' = false by decide), trim_eq_iff]
  constructor
  · rintro ⟨afterColon, ⟨blanks, whole, areBlanks⟩, typeText, _, isRun, isTrimmed, rfl⟩
    exact ⟨typeText, ⟨blanks, afterColon, whole, areBlanks, isRun⟩, isTrimmed⟩
  · rintro ⟨typeText, ⟨blanks, afterColon, whole, areBlanks, isRun⟩, isTrimmed⟩
    exact ⟨afterColon, ⟨blanks, whole, areBlanks⟩, typeText, rest, isRun, isTrimmed, rfl⟩

theorem typeIs_iff {text rest : List Char} {typeName : Option (List Char)} :
    TypeIs text typeName rest ↔ (typeAnnotation? text).map Prod.fst = typeName ∧
      ((typeAnnotation? text).map Prod.snd).getD text = rest := by
  cases found : typeAnnotation? text with
  | none =>
      have notTyped (typeText rest : List Char) : ¬ IsTyped text typeText rest := by
        intro isTyped
        have typed := typeAnnotation?_eq_some.mpr ⟨typeText, isTyped, isTrimmed_trim typeText⟩
        rw [found] at typed
        cases typed
      constructor
      · rintro (⟨isTyped, -⟩ | -)
        · exact absurd isTyped (notTyped _ _)
        · exact ⟨rfl, rfl⟩
      · rintro ⟨rfl, rfl⟩
        exact .missing notTyped
  | some annotation =>
      obtain ⟨middle, after⟩ := annotation
      obtain ⟨typeText, isTyped, isTrimmed⟩ := typeAnnotation?_eq_some.mp found
      constructor
      · rintro (⟨isTyped', isTrimmed'⟩ | notTyped)
        · have again := typeAnnotation?_eq_some.mpr ⟨_, isTyped', isTrimmed'⟩
          rw [found] at again
          obtain ⟨rfl, rfl⟩ := Prod.mk.inj (Option.some.inj again)
          exact ⟨rfl, rfl⟩
        · exact absurd isTyped (notTyped typeText after)
      · rintro ⟨rfl, rfl⟩
        exact .declared isTyped isTrimmed

theorem initialValue?_eq_some {text value : List Char} :
    initialValue? text = some value ↔ IsInitialized text value := by
  simp only [initialValue?, Option.bind_eq_bind, Option.bind_eq_some_iff, Option.pure_def,
    Option.some.injEq, Prod.exists, stretch?_eq_some,
    afterWord?_trimStart_eq_some (show isBlank '=' = false by decide)]
  constructor
  · rintro ⟨afterEquals, ⟨blanks, whole, areBlanks⟩, _, rest, isRun, rfl⟩
    obtain ⟨moreBlanks, behind, areMoreBlanks, stops⟩ :=
      trimStart_eq_iff.mp (Eq.refl (trimStart afterEquals))
    rw [behind] at whole
    exact ⟨blanks, moreBlanks, _, rest, whole, areBlanks, areMoreBlanks, stops, isRun⟩
  · rintro ⟨blanks, moreBlanks, visible, rest, whole, areBlanks, areMoreBlanks, stops, isRun⟩
    have stripped : trimStart (moreBlanks ++ visible) = visible :=
      trimStart_eq_iff.mpr ⟨moreBlanks, rfl, areMoreBlanks, stops⟩
    rw [← stripped] at isRun
    exact ⟨moreBlanks ++ visible, ⟨blanks, whole, areBlanks⟩, value, rest, isRun, rfl⟩

theorem initialIs_iff {text : List Char} {value : Option (List Char)} :
    InitialIs text value ↔ initialValue? text = value := by
  constructor
  · rintro (isInitialized | notInitialized)
    · exact initialValue?_eq_some.mpr isInitialized
    · rw [Option.eq_none_iff_forall_ne_some]
      exact fun value found => notInitialized value (initialValue?_eq_some.mp found)
  · rintro rfl
    cases found : initialValue? text with
    | none =>
        refine .missing fun value isInitialized => ?_
        have given := initialValue?_eq_some.mpr isInitialized
        rw [found] at given
        cases given
    | some value => exact .given (initialValue?_eq_some.mp found)

/-! ## Declarations -/

/-- What the declaration with which a text starts says about its variable. -/
def Declares (text : List Char) (parts : Parts) : Prop :=
  ∃ opening afterOpening afterName afterType, text = opening ++ afterOpening ∧
    Opens parts.isPrivate opening ∧ IsLongestRun isNameChar afterOpening parts.name afterName ∧
      TypeIs afterName parts.typeName afterType ∧ InitialIs afterType parts.initial

/-- A name begins with no blank, so the opening before it cannot end anywhere else. -/
theorem stops_isBlank_of_name {name rest : List Char} (notEmpty : name ≠ [])
    (areNameChars : ∀ c ∈ name, isNameChar c = true) : Stops isBlank (name ++ rest) := by
  obtain ⟨c, name, rfl⟩ := List.exists_cons_of_ne_nil notEmpty
  exact stops_cons.mpr (isBlank_of_isNameChar (areNameChars c (by simp)))

theorem partsAt?_eq_some {text : List Char} {parts : Parts} :
    partsAt? text = some parts ↔ Declares text parts := by
  simp only [partsAt?_eq, Option.bind_eq_some_iff, Option.map_eq_some_iff, Prod.exists,
    stretch?_eq_some, opening?_eq_some]
  constructor
  · rintro ⟨isPrivate, afterOpening, ⟨opening, whole, opens, -⟩, name, afterName, isName, rfl⟩
    exact ⟨opening, afterOpening, afterName, _, whole, opens, isName,
      typeIs_iff.mpr ⟨rfl, rfl⟩, initialIs_iff.mpr rfl⟩
  · rintro ⟨opening, afterOpening, afterName, afterType, whole, opens, isName, hasType, hasInitial⟩
    obtain ⟨typeName, rfl⟩ := typeIs_iff.mp hasType
    have stops : Stops isBlank afterOpening := by
      rw [isName.splits]
      exact stops_isBlank_of_name isName.notEmpty isName.passes
    refine ⟨parts.isPrivate, afterOpening, ⟨opening, whole, opens, stops⟩, parts.name, afterName,
      isName, ?_⟩
    rw [typeName, initialIs_iff.mp hasInitial]

/-- Nothing that a declaration consists of beyond the name has to be there. -/
theorem startsDeclaration_iff {text : List Char} :
    StartsDeclaration text ↔ ∃ parts, Declares text parts := by
  constructor
  · rintro ⟨isPrivate, opening, name, rest, whole, opens, notEmpty, areNameChars⟩
    have stops : Stops isBlank (name ++ rest) := stops_isBlank_of_name notEmpty areNameChars
    have opened := opening?_eq_some.mpr ⟨opening, whole, opens, stops⟩
    obtain ⟨c, name, rfl⟩ := List.exists_cons_of_ne_nil notEmpty
    have declared : (partsAt? text).isSome :=
      isSome_partsAt?.mpr ⟨isPrivate, c, name ++ rest, opened, areNameChars c (by simp)⟩
    obtain ⟨parts, found⟩ := Option.isSome_iff_exists.mp declared
    exact ⟨parts, partsAt?_eq_some.mp found⟩
  · rintro ⟨parts, opening, afterOpening, afterName, afterType, whole, opens, isName, -⟩
    rw [isName.splits] at whole
    exact ⟨parts.isPrivate, opening, parts.name, afterName, whole, opens, isName.notEmpty,
      isName.passes⟩

theorem partsAt?_eq_none {text : List Char} :
    partsAt? text = none ↔ ¬ StartsDeclaration text := by
  rw [startsDeclaration_iff, Option.eq_none_iff_forall_ne_some, not_exists]
  exact forall_congr' fun parts => not_congr partsAt?_eq_some

/-! ## Lines -/

/-- Where in a line the leftmost declaration starts. -/
structure IsLeftmost (line before text : List Char) : Prop where
  splits : line = before ++ text
  starts : StartsDeclaration text
  isFirst : ∀ earlier later, line = earlier ++ later → StartsDeclaration later →
    before.length ≤ earlier.length

theorem not_startsDeclaration_nil : ¬ StartsDeclaration [] :=
  partsAt?_eq_none.mp rfl

theorem IsLeftmost.of_starts {text : List Char} (starts : StartsDeclaration text) :
    IsLeftmost text [] text :=
  ⟨rfl, starts, fun _ _ _ _ => Nat.zero_le _⟩

/-- Where no declaration starts, the leftmost one is that of the text behind. -/
theorem IsLeftmost.cons {c : Char} {line before text : List Char}
    (silent : ¬ StartsDeclaration (c :: line)) (isLeftmost : IsLeftmost line before text) :
    IsLeftmost (c :: line) (c :: before) text := by
  refine ⟨by rw [isLeftmost.splits, List.cons_append], isLeftmost.starts, ?_⟩
  intro earlier later whole starts
  cases earlier with
  | nil =>
      rw [List.nil_append] at whole
      exact absurd (whole ▸ starts) silent
  | cons d earlier =>
      obtain ⟨-, rest⟩ := List.cons.inj whole
      exact Nat.succ_le_succ (isLeftmost.isFirst earlier later rest starts)

/-- What stands before the leftmost declaration changes nothing about it. -/
theorem parts?_of_isLeftmost {line before text : List Char}
    (isLeftmost : IsLeftmost line before text) : parts? line = partsAt? text := by
  induction before generalizing line with
  | nil =>
      obtain rfl : line = text := isLeftmost.splits
      obtain ⟨parts, declares⟩ := startsDeclaration_iff.mp isLeftmost.starts
      have found := partsAt?_eq_some.mpr declares
      cases line with
      | nil => exact absurd isLeftmost.starts not_startsDeclaration_nil
      | cons c line => rw [parts?, found]
  | cons c before ih =>
      obtain rfl : line = c :: (before ++ text) := isLeftmost.splits
      have silent : ¬ StartsDeclaration (c :: (before ++ text)) := fun starts =>
        Nat.not_succ_le_zero _ (isLeftmost.isFirst [] _ rfl starts)
      have later : IsLeftmost (before ++ text) before text := by
        refine ⟨rfl, isLeftmost.starts, fun earlier later whole starts => ?_⟩
        have behind := isLeftmost.isFirst (c :: earlier) later (by rw [whole]; rfl) starts
        exact Nat.le_of_succ_le_succ behind
      rw [parts?, partsAt?_eq_none.mpr silent]
      exact ih later

theorem exists_isLeftmost {line before text : List Char} (whole : line = before ++ text)
    (starts : StartsDeclaration text) : ∃ before text, IsLeftmost line before text := by
  induction before generalizing line with
  | nil => exact ⟨[], line, .of_starts (whole ▸ starts)⟩
  | cons c before ih =>
      obtain ⟨earlier, later, isLeftmost⟩ := ih rfl
      rw [whole, List.cons_append]
      by_cases here : StartsDeclaration (c :: (before ++ text))
      · exact ⟨[], _, .of_starts here⟩
      · exact ⟨c :: earlier, later, isLeftmost.cons here⟩

theorem isSome_parts?_iff {line : List Char} :
    (parts? line).isSome ↔ ∃ before text, line = before ++ text ∧ StartsDeclaration text := by
  constructor
  · intro declares
    induction line with
    | nil => cases declares
    | cons c line ih =>
        rw [isSome_parts?_cons, Bool.or_eq_true] at declares
        rcases declares with here | later
        · obtain ⟨parts, found⟩ := Option.isSome_iff_exists.mp here
          exact ⟨[], _, rfl, startsDeclaration_iff.mpr ⟨parts, partsAt?_eq_some.mp found⟩⟩
        · obtain ⟨before, text, rfl, starts⟩ := ih later
          exact ⟨c :: before, text, rfl, starts⟩
  · rintro ⟨before, text, whole, starts⟩
    obtain ⟨first, found, isLeftmost⟩ := exists_isLeftmost whole starts
    obtain ⟨parts, declares⟩ := startsDeclaration_iff.mp isLeftmost.starts
    rw [parts?_of_isLeftmost isLeftmost, partsAt?_eq_some.mpr declares]
    rfl

theorem parts?_eq_some {line : List Char} {parts : Parts} :
    parts? line = some parts ↔
      ∃ before text, IsLeftmost line before text ∧ Declares text parts := by
  constructor
  · intro found
    obtain ⟨before, text, whole, starts⟩ :=
      isSome_parts?_iff.mp (Option.isSome_iff_exists.mpr ⟨parts, found⟩)
    obtain ⟨first, rest, isLeftmost⟩ := exists_isLeftmost whole starts
    rw [parts?_of_isLeftmost isLeftmost] at found
    exact ⟨first, rest, isLeftmost, partsAt?_eq_some.mp found⟩
  · rintro ⟨before, text, isLeftmost, declares⟩
    rw [parts?_of_isLeftmost isLeftmost]
    exact partsAt?_eq_some.mpr declares

/-- A line declares a variable exactly if a declaration starts somewhere in it. The variable is the
one that the leftmost declaration describes, whatever stands before it, and keeps the whole line. -/
theorem leftmost_declaration_is_read (line : List Char) :
    ((ofLine? line).isSome ↔
      ∃ before text, line = before ++ text ∧ StartsDeclaration text) ∧
    ∀ declared, ofLine? line = some declared ↔
      ∃ before text parts, IsLeftmost line before text ∧ Declares text parts ∧
        declared =
          { declaration := String.ofList line
            isPrivate := parts.isPrivate
            name := String.ofList parts.name
            typeName := (parts.typeName.map String.ofList).getD "Any"
            initial := parts.initial.map String.ofList } := by
  have typeNames (typeName : Option (List Char)) :
      String.ofList (typeName.getD ['A', 'n', 'y']) = (typeName.map String.ofList).getD "Any" := by
    cases typeName <;> rfl
  refine ⟨by rw [ofLine?, Option.isSome_map, isSome_parts?_iff], fun declared => ?_⟩
  rw [ofLine?, Option.map_eq_some_iff]
  simp only [parts?_eq_some, ofParts, typeNames]
  constructor
  · rintro ⟨parts, ⟨before, text, isLeftmost, declares⟩, rfl⟩
    exact ⟨before, text, parts, isLeftmost, declares, rfl⟩
  · rintro ⟨before, text, parts, isLeftmost, declares, rfl⟩
    exact ⟨parts, ⟨before, text, isLeftmost, declares⟩, rfl⟩

end Polyview.StateVariable
