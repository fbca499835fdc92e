import Polyview.Escape.TypeName
import Polyview.Proofs.Text.Words

/-!
# When a type name is an identifier

A type name starts like an identifier, and has no characters but those of identifiers, spaces, and
marks. A space is left in it where a mark of the application name takes the place of the character
before it into its own cluster, and a mark where the case mapping of a letter brings one with it.
In all other names every character that cannot stay ends a word.
-/

namespace Polyview.TypeName

open Text

/-! ## Cutting a name -/

/-- Of two neighbours in a name one is replaced by a space, and the other one does not take this
space into its cluster. -/
def IsCutBetween (c d : Char) : Prop :=
  (isAlphanumeric c = false → isAlphanumeric d = true → (ClusterClass.of d).isMark = false) ∧
  (isAlphanumeric d = false → isAlphanumeric c = true → ClusterClass.of c ≠ .leading)

instance (c d : Char) : Decidable (IsCutBetween c d) := inferInstanceAs (Decidable (_ ∧ _))

/-- Every character of a name that no identifier can hold ends a word. -/
def IsCutCleanly (name : List Char) : Prop := name.IsChain IsCutBetween

instance (name : List Char) : Decidable (IsCutCleanly name) :=
  inferInstanceAs (Decidable (name.IsChain IsCutBetween))

theorem space_not_alphanumeric : isAlphanumeric ' ' = false := by decide +kernel

theorem keepsSpaceApart_spaced (c d : Char) :
    KeepsSpaceApart (if isAlphanumeric c then c else ' ') (if isAlphanumeric d then d else ' ') ↔
      IsCutBetween c d := by
  have notSpace {c : Char} (alphanumeric : isAlphanumeric c = true) : c ≠ ' ' := by
    rintro rfl
    rw [space_not_alphanumeric] at alphanumeric
    cases alphanumeric
  unfold KeepsSpaceApart IsCutBetween
  cases first : isAlphanumeric c <;> cases second : isAlphanumeric d
  · simp [of_space, ClusterClass.isMark]
  · simp [notSpace second]
  · simp [notSpace first]
  · simp [notSpace first, notSpace second]

theorem isChain_spaced (name : List Char) :
    (spaced name).IsChain KeepsSpaceApart ↔ IsCutCleanly name := by
  rw [spaced, List.isChain_map, IsCutCleanly]
  simp only [keepsSpaceApart_spaced]

theorem mem_spaced {name : List Char} {c : Char} (member : c ∈ spaced name) :
    c = ' ' ∨ isAlphanumeric c := by
  obtain ⟨original, -, rfl⟩ := List.mem_map.mp member
  split
  next alphanumeric => exact .inr alphanumeric
  next => exact .inl rfl

/-! ## Capitalized words -/

/-- Capitalizing a word gives characters of names only: the upper-case form of its first character
has no marks, and no other character is a dotted capital. -/
def CapitalizesToName : List Char → Prop
  | [] => True
  | c :: rest => (∀ d ∈ upperOf c, isNameChar d) ∧ dottedCapital ∉ rest

instance : DecidablePred CapitalizesToName
  | [] => inferInstanceAs (Decidable True)
  | c :: rest =>
      have : Decidable (∀ d ∈ upperOf c, isNameChar d) := List.decidableBAll _ (upperOf c)
      inferInstanceAs (Decidable (_ ∧ dottedCapital ∉ rest))

theorem isNameChar_of_alphanumeric {c : Char} (alphanumeric : isAlphanumeric c) : isNameChar c := by
  rw [isNameChar, alphanumeric]
  rfl

theorem isNameChar_of_smallSigma : ∀ c ∈ smallSigmas, isNameChar c := by
  have allNameChars : smallSigmas.all isNameChar = true := by decide +kernel
  exact List.all_eq_true.mp allNameChars

theorem upperOf_space : upperOf ' ' = [' '] := by decide +kernel

theorem lowerOf_space : lowerOf ' ' = [' '] := by decide +kernel

theorem space_not_isNameChar : isNameChar ' ' = false := by decide +kernel

/-- A text has letters, numbers, and spaces in place of everything else. -/
def IsSpaced (text : List Char) : Prop := ∀ c ∈ text, c = ' ' ∨ isAlphanumeric c

theorem isNameChar_lowercase {text : List Char} (isSpaced : IsSpaced text) :
    (∀ d ∈ lowercase text, isNameChar d) ↔ ' ' ∉ text ∧ dottedCapital ∉ text := by
  constructor
  · intro areName
    constructor
    · intro isSpace
      have inLower : ' ' ∈ lowercase text :=
        mem_lowercaseAfter_of_mem isSpace (by decide) (by simp [lowerOf_space]) []
      simpa [space_not_isNameChar] using areName _ inLower
    · intro isDotted
      have inLower : Char.ofNat 0x307 ∈ lowercase text :=
        mem_lowercaseAfter_of_mem isDotted (by decide) (by simp [lowerOf_dottedCapital]) []
      have noName : isNameChar (Char.ofNat 0x307) = false := by decide +kernel
      simpa [noName] using areName _ inLower
  · rintro ⟨noSpace, notDotted⟩ d member
    rcases mem_lowercaseAfter member with isSmall | ⟨c, isIn, isLower⟩
    · exact isNameChar_of_smallSigma d isSmall
    · have alphanumeric : isAlphanumeric c :=
        (isSpaced c isIn).resolve_left fun isSpace => noSpace (isSpace ▸ isIn)
      have notDotted : c ≠ dottedCapital := fun same => notDotted (same ▸ isIn)
      exact isNameChar_of_alphanumeric (lowerOf_of_alphanumeric alphanumeric notDotted d isLower)

theorem isNameChar_capitalized {word : List Char} (isSpaced : IsSpaced word) :
    (∀ d ∈ capitalized word, isNameChar d) ↔ ' ' ∉ word ∧ CapitalizesToName word := by
  cases word with
  | nil => simp [capitalized, CapitalizesToName]
  | cons c rest =>
      have lower := isNameChar_lowercase (List.forall_mem_cons.mp isSpaced).2
      have notSpace (areName : ∀ d ∈ upperOf c, isNameChar d) : ' ' ≠ c := by
        rintro rfl
        simp [upperOf_space, space_not_isNameChar] at areName
      simp only [capitalized, CapitalizesToName, List.forall_mem_append, lower, List.mem_cons,
        not_or]
      constructor
      · rintro ⟨areName, noSpace, notDotted⟩
        exact ⟨⟨notSpace areName, noSpace⟩, areName, notDotted⟩
      · rintro ⟨⟨-, noSpace⟩, areName, notDotted⟩
        exact ⟨areName, noSpace, notDotted⟩

/-- Whatever a word is, capitalizing it gives characters of names, spaces and marks. -/
theorem mem_capitalized {word : List Char} (isSpaced : IsSpaced word) {d : Char}
    (member : d ∈ capitalized word) : isNameChar d ∨ d = ' ' ∨ isExtending d := by
  cases word with
  | nil => cases member
  | cons c rest =>
      rcases List.mem_append.mp member with first | later
      · rcases isSpaced c List.mem_cons_self with rfl | alphanumeric
        · rw [upperOf_space, List.mem_singleton] at first
          exact .inr (.inl first)
        · rcases upperOf_of_alphanumeric alphanumeric d first with isLetter | isMark
          · exact .inl (isNameChar_of_alphanumeric isLetter)
          · exact .inr (.inr isMark)
      · rcases mem_lowercaseAfter later with isSmall | ⟨other, isIn, isLower⟩
        · exact .inl (isNameChar_of_smallSigma d isSmall)
        · rcases isSpaced other (List.mem_cons_of_mem c isIn) with rfl | alphanumeric
          · rw [lowerOf_space, List.mem_singleton] at isLower
            exact .inr (.inl isLower)
          · by_cases isDotted : other = dottedCapital
            · subst isDotted
              rw [lowerOf_dottedCapital] at isLower
              rcases List.mem_pair.mp isLower with rfl | rfl
              · exact .inl (by decide +kernel)
              · exact .inr (.inr (by decide +kernel))
            · exact .inl (isNameChar_of_alphanumeric
                (lowerOf_of_alphanumeric alphanumeric isDotted d isLower))

/-! ## Type names -/

theorem isSpaced_of_mem_words {name word : List Char} (isWord : word ∈ words (spaced name)) :
    IsSpaced word := fun _ member => mem_spaced (mem_of_mem_words isWord member)

theorem isNameChar_pascalCase (name : List Char) :
    (∀ d ∈ pascalCase (spaced name), isNameChar d) ↔
      IsCutCleanly name ∧ ∀ word ∈ words (spaced name), CapitalizesToName word := by
  rw [← isChain_spaced, ← space_notMem_words]
  simp only [pascalCase, List.mem_flatten, List.mem_map]
  constructor
  · intro areName
    have parts (word : List Char) (isWord : word ∈ words (spaced name)) :
        ' ' ∉ word ∧ CapitalizesToName word :=
      (isNameChar_capitalized (isSpaced_of_mem_words isWord)).mp fun d member =>
        areName d ⟨_, ⟨word, isWord, rfl⟩, member⟩
    exact ⟨fun word isWord => (parts word isWord).1, fun word isWord => (parts word isWord).2⟩
  · rintro ⟨noSpace, capitalize⟩ d ⟨_, ⟨word, isWord, rfl⟩, member⟩
    exact (isNameChar_capitalized (isSpaced_of_mem_words isWord)).mpr
      ⟨noSpace word isWord, capitalize word isWord⟩ d member

theorem isIdentifier_anchored (text : List Char) :
    isIdentifier (anchored text) ↔ ∀ d ∈ text, isNameChar d := by
  have lowLine : isNameChar '_' := by decide +kernel
  cases text with
  | nil => simpa [anchored, isIdentifier] using lowLine
  | cons c rest =>
      rw [anchored]
      split
      next alphabetic => simp [isIdentifier, alphabetic]
      next => simp [isIdentifier, lowLine]

theorem isIdentifier_identifier (name : List Char) :
    isIdentifier (identifier name) ↔ isIdentifier name ∨
      IsCutCleanly name ∧ ∀ word ∈ words (spaced name), CapitalizesToName word := by
  unfold identifier
  split
  next stays => simp [stays]
  next changes =>
    rw [isIdentifier_anchored, isNameChar_pascalCase]
    simp [changes]

theorem identifier_begins (name : List Char) :
    ∃ first rest, identifier name = first :: rest ∧ (isAlphabetic first ∨ first = '_') := by
  unfold identifier
  split
  next stays =>
    cases name with
    | nil => cases stays
    | cons first rest =>
        have begins := (Bool.and_eq_true _ _ ▸ stays).1
        rw [Bool.or_eq_true, beq_iff_eq] at begins
        exact ⟨first, rest, rfl, begins⟩
  next =>
    cases pascalCase (spaced name) with
    | nil => exact ⟨'_', [], rfl, .inr rfl⟩
    | cons first rest =>
        rw [anchored]
        split
        next alphabetic => exact ⟨first, rest, rfl, .inl alphabetic⟩
        next => exact ⟨'_', first :: rest, rfl, .inr rfl⟩

theorem mem_anchored {text : List Char} {c : Char} (member : c ∈ anchored text) :
    c = '_' ∨ c ∈ text := by
  unfold anchored at member
  split at member
  · exact .inl (List.mem_singleton.mp member)
  · split at member
    · exact .inr member
    · exact List.mem_cons.mp member

theorem mem_identifier {name : List Char} {c : Char} (member : c ∈ identifier name) :
    isNameChar c ∨ c = ' ' ∨ isExtending c := by
  unfold identifier at member
  split at member
  next stays =>
    left
    cases name with
    | nil => cases stays
    | cons first rest =>
        have areName := (Bool.and_eq_true _ _ ▸ stays).2
        exact List.all_eq_true.mp areName c member
  next =>
    rcases mem_anchored member with rfl | inWords
    · exact .inl (by decide +kernel)
    · simp only [pascalCase, List.mem_flatten, List.mem_map] at inWords
      obtain ⟨_, ⟨word, isWord, rfl⟩, inWord⟩ := inWords
      exact mem_capitalized (isSpaced_of_mem_words isWord) inWord

/-- Characters that would end the place in generated code where a type name stands. -/
def breaking : List Char := ['"', '\'', '{', '}', '<', '>', '\n', '\r']

theorem breaking_not_isNameChar : ∀ c ∈ breaking,
    isNameChar c = false ∧ c ≠ ' ' ∧ isExtending c = false := by
  have allBreaking : (breaking.all fun c => !isNameChar c && (c != ' ' && !isExtending c)) = true :=
    by decide +kernel
  simpa using allBreaking

/-- A type name always starts like an identifier, and never has quotes, brackets, braces or line
ends. It is an identifier exactly if the application name is one already, or if every character that
has to go ends a word and the capitalized words have characters of names only. Such a type name is
not changed again. -/
theorem type_name_is_identifier_iff (name : String) :
    (∃ first rest, (ofName name).toList = first :: rest ∧ (isAlphabetic first ∨ first = '_')) ∧
    (∀ c ∈ breaking, c ∉ (ofName name).toList) ∧
    (isIdentifier (ofName name).toList ↔ isIdentifier name.toList ∨
      IsCutCleanly name.toList ∧
        ∀ word ∈ words (spaced name.toList), CapitalizesToName word) ∧
    (isIdentifier (ofName name).toList →
      ' ' ∉ (ofName name).toList ∧ ofName (ofName name) = ofName name) := by
  have chars : (ofName name).toList = identifier name.toList := String.toList_ofList
  rw [chars]
  refine ⟨identifier_begins _, fun c isBreaking member => ?_, isIdentifier_identifier _,
    fun isName => ⟨fun member => ?_, ?_⟩⟩
  · obtain ⟨noName, notSpace, noMark⟩ := breaking_not_isNameChar c isBreaking
    rcases mem_identifier member with isNameChar | isSpace | isMark
    · rw [noName] at isNameChar
      cases isNameChar
    · exact notSpace isSpace
    · rw [noMark] at isMark
      cases isMark
  · obtain ⟨first, rest, isList, -⟩ := identifier_begins name.toList
    rw [isList] at isName member
    have areName := (Bool.and_eq_true _ _ ▸ isName).2
    have isNameChar := List.all_eq_true.mp areName _ member
    rw [space_not_isNameChar] at isNameChar
    cases isNameChar
  · rw [ofName, chars, identifier, if_pos isName, ← chars, String.ofList_toList]

/-- The quotes and the backslash each end a word. -/
theorem type_name_is_identifier_of_quoted_name :
    (IsCutCleanly "Say \"Hi\" \\ now".toList ∧
      ∀ word ∈ words (spaced "Say \"Hi\" \\ now".toList), CapitalizesToName word) ∧
    isIdentifier (ofName "Say \"Hi\" \\ now").toList ∧
    ofName (ofName "Say \"Hi\" \\ now") = ofName "Say \"Hi\" \\ now" := by
  have cut : IsCutCleanly "Say \"Hi\" \\ now".toList ∧
      ∀ word ∈ words (spaced "Say \"Hi\" \\ now".toList), CapitalizesToName word := by
    decide +kernel
  obtain ⟨-, -, isIdentifier_iff, unchanged⟩ := type_name_is_identifier_iff "Say \"Hi\" \\ now"
  have isName := isIdentifier_iff.mpr (.inr cut)
  exact ⟨cut, isName, (unchanged isName).2⟩

/-- The sign behind the space is a letter and joins the space, which is then no word break: the type
name has the space in it. -/
theorem type_name_can_keep_space :
    ' ' ∈ (ofName "a \u0903b").toList ∧ isIdentifier (ofName "a \u0903b").toList = false := by
  decide +kernel

end Polyview.TypeName
