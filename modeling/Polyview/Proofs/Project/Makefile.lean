import Polyview.Proofs.Escape.TypeName
import Polyview.Proofs.Project.Generation

/-!
# The binary of a project for Linux

The makefile of a project names the binary after the application, in lower case and with low lines
between the words. Hyphens, low lines and spaces end a word and nothing else does, so every other
character of the name comes to stand in a recipe, which a shell reads. The makefile therefore builds
one binary exactly for the names that have no blanks and marks of a shell but spaces, and whose
spaces are all clusters of their own.
-/

namespace Polyview

/-- The characters of a list are tried one after another, and not among all characters. -/
local instance (priority := 2000) decidableForallMem {p : Char → Prop} [DecidablePred p]
    (text : List Char) : Decidable (∀ c ∈ text, p c) :=
  List.decidableBAll p text

namespace Text

/-! ## Characters of a word in a recipe -/

/-- The characters that a makefile or a shell gives a meaning to. -/
def shellMarks : List Char :=
  ['$', '#', ';', '&', '|', '<', '>', '(', ')', '\x27', '"', '\x60', '\\']

/-- A character that stands for itself in a recipe and does not end a word there. -/
def isWordChar (c : Char) : Bool := !isBlank c && !shellMarks.contains c

/-- The characters that are blank or marks of a shell. -/
def spoilers : List Char :=
  (blankRanges.flatMap fun range =>
    (List.range' range.1 (range.2 + 1 - range.1)).map Char.ofNat) ++ shellMarks

theorem mem_spoilers {c : Char} (spoils : ¬ isWordChar c) : c ∈ spoilers := by
  rw [isWordChar, Bool.and_eq_true, not_and_or, Bool.not_eq_true', Bool.not_eq_false,
    Bool.not_eq_true', Bool.not_eq_false] at spoils
  rw [spoilers, List.mem_append, List.mem_flatMap]
  rcases spoils with blank | isMark
  · obtain ⟨range, member, inRange⟩ := CodeSet.exists_range_of_holds blank
    exact .inl ⟨range, member, List.mem_map.mpr ⟨c.toNat, inRange, c.ofNat_toNat⟩⟩
  · exact .inr (List.contains_iff_mem.mp isMark)

/-- No case mapping changes a blank or a mark. -/
theorem lowerOf_of_spoilers : ∀ c ∈ spoilers,
    lowerOf c = [c] ∧ c.toNat ≠ 0x3A3 ∧ isAlphanumeric c = false := by
  decide +kernel

theorem isWordChar_of_alphanumeric {c : Char} (alphanumeric : isAlphanumeric c) :
    isWordChar c := by
  by_contra spoils
  have notAlphanumeric := (lowerOf_of_spoilers c (mem_spoilers spoils)).2.2
  rw [alphanumeric] at notAlphanumeric
  cases notAlphanumeric

theorem isWordChar_of_separators : ∀ cluster, isSeparator cluster → cluster ≠ [' '] →
    ∀ c ∈ cluster, isWordChar c := by
  intro cluster separates notSpace
  rw [isSeparator, Bool.or_eq_true, Bool.or_eq_true, beq_iff_eq, beq_iff_eq, beq_iff_eq] at separates
  rcases separates with (rfl | rfl) | rfl
  · decide
  · decide
  · exact absurd rfl notSpace

/-! ## Lower case -/

theorem isWordChar_lowerOf {c d : Char} (member : d ∈ lowerOf c) (isWord : isWordChar c) :
    isWordChar d := by
  by_cases isDotted : c = dottedCapital
  · have both : ∀ d ∈ lowerOf dottedCapital, isWordChar d := by decide +kernel
    exact both d (isDotted ▸ member)
  · unfold lowerOf at member
    split at member
    next isCode =>
      exact absurd (by rw [dottedCapital, ← isCode, Char.ofNat_toNat]) isDotted
    next =>
      split at member
      next code isImage =>
        obtain rfl := List.mem_singleton.mp member
        exact isWordChar_of_alphanumeric (isAlphanumeric_of_image movesInto_of_lowerRuns isImage)
      next =>
        obtain rfl := List.mem_singleton.mp member
        exact isWord

theorem isWordChar_lowercase (text : List Char) :
    (∀ d ∈ lowercase text, isWordChar d) ↔ ∀ c ∈ text, isWordChar c := by
  constructor
  · intro areWord c isIn
    by_contra spoils
    obtain ⟨stays, notSigma, -⟩ := lowerOf_of_spoilers c (mem_spoilers spoils)
    exact spoils (areWord c (mem_lowercaseAfter_of_mem isIn notSigma (by simp [stays]) []))
  · intro areWord d member
    rcases mem_lowercaseAfter member with isSmall | ⟨c, isIn, isLower⟩
    · have both : ∀ d ∈ smallSigmas, isWordChar d := by decide +kernel
      exact both d isSmall
    · exact isWordChar_lowerOf isLower (areWord c isIn)

theorem lowerOf_ne_nil (c : Char) : lowerOf c ≠ [] := by
  unfold lowerOf
  split
  · simp
  · split <;> simp

theorem lowercase_ne_nil {text : List Char} (nonempty : text ≠ []) : lowercase text ≠ [] := by
  cases text with
  | nil => exact absurd rfl nonempty
  | cons c text =>
      rw [lowercase, lowercaseAfter]
      refine List.append_ne_nil_of_left_ne_nil ?_ _
      split
      · split <;> simp
      · exact lowerOf_ne_nil c

/-! ## Joined words -/

theorem forall_mem_intercalate {α : Type} {p : α → Prop} {separator : List α}
    (separates : ∀ a ∈ separator, p a) (parts : List (List α)) :
    (∀ a ∈ separator.intercalate parts, p a) ↔ ∀ part ∈ parts, ∀ a ∈ part, p a := by
  induction parts with
  | nil => simp
  | cons part parts ih =>
      cases parts with
      | nil => simp
      | cons next parts =>
          rw [List.intercalate_cons_cons, List.forall_mem_append, List.forall_mem_append, ih,
            and_iff_left separates]
          simp only [List.forall_mem_cons]

theorem intercalate_ne_nil {α : Type} {separator part : List α} {parts : List (List α)}
    (isPart : part ∈ parts) (nonempty : part ≠ []) : separator.intercalate parts ≠ [] := by
  induction parts with
  | nil => cases isPart
  | cons first parts ih =>
      cases parts with
      | nil =>
          obtain rfl := List.mem_singleton.mp isPart
          simpa using nonempty
      | cons next parts =>
          rw [List.intercalate_cons_cons]
          rcases List.mem_cons.mp isPart with rfl | isLater
          · simp [nonempty]
          · simp [ih isLater]

theorem isWordChar_snakeCase (name : List Char) :
    (∀ d ∈ snakeCase name, isWordChar d) ↔ ∀ word ∈ words name, ∀ c ∈ word, isWordChar c := by
  have lowLine : ∀ c ∈ ['_'], isWordChar c := by decide
  rw [snakeCase, forall_mem_intercalate lowLine, List.forall_mem_map]
  simp only [isWordChar_lowercase]

/-- The words of a name have a blank or a mark of a shell exactly if the name has one that is not a
space, or a space that is not a cluster of its own. -/
theorem isWordChar_words (name : List Char) :
    (∀ word ∈ words name, ∀ c ∈ word, isWordChar c) ↔
      (∀ c ∈ name, c = ' ' ∨ isWordChar c) ∧ name.IsChain KeepsSpaceApart := by
  rw [← space_notMem_words]
  constructor
  · intro areWord
    have notSpace (word : List Char) (isWord : word ∈ words name) : ' ' ∉ word := fun member =>
      absurd (areWord word isWord ' ' member) (by decide)
    refine ⟨fun c isIn => ?_, notSpace⟩
    rw [← flatten_clusters name, List.mem_flatten] at isIn
    obtain ⟨cluster, isCluster, member⟩ := isIn
    by_cases separates : isSeparator cluster
    · by_cases isSpace : cluster = [' ']
      · exact .inl (List.mem_singleton.mp (isSpace ▸ member))
      · exact .inr (isWordChar_of_separators cluster separates isSpace c member)
    · have inWords : c ∈ (words name).flatten := by
        rw [flatten_words, wordClusters]
        exact List.mem_flatten.mpr
          ⟨cluster, List.mem_filter.mpr ⟨isCluster, by simpa using separates⟩, member⟩
      obtain ⟨word, isWord, member⟩ := List.mem_flatten.mp inWords
      exact .inr (areWord word isWord c member)
  · rintro ⟨areWord, noSpace⟩ word isWord c member
    have notSpace : c ≠ ' ' := fun isSpace => noSpace word isWord (isSpace ▸ member)
    exact (areWord c (mem_of_mem_words isWord member)).resolve_left notSpace

/-- A name with a letter or a number has a word. -/
theorem snakeCase_ne_nil {name : List Char} (hasLetter : ∃ c ∈ name, isAlphanumeric c) :
    snakeCase name ≠ [] := by
  obtain ⟨c, isIn, alphanumeric⟩ := hasLetter
  rw [← flatten_clusters name, List.mem_flatten] at isIn
  obtain ⟨cluster, isCluster, member⟩ := isIn
  have stays : isSeparator cluster = false := by
    by_contra separates
    rw [Bool.not_eq_false, isSeparator, Bool.or_eq_true, Bool.or_eq_true, beq_iff_eq, beq_iff_eq,
      beq_iff_eq] at separates
    have noLetters : isAlphanumeric '-' = false ∧ isAlphanumeric '_' = false ∧
        isAlphanumeric ' ' = false := by
      decide +kernel
    rcases separates with (rfl | rfl) | rfl <;>
      (obtain rfl := List.mem_singleton.mp member
       simp [noLetters] at alphanumeric)
  have inWords : c ∈ (words name).flatten := by
    rw [flatten_words, wordClusters]
    exact List.mem_flatten.mpr
      ⟨cluster, List.mem_filter.mpr ⟨isCluster, by simp [stays]⟩, member⟩
  obtain ⟨word, isWord, member⟩ := List.mem_flatten.mp inWords
  exact intercalate_ne_nil (List.mem_map_of_mem isWord)
    (lowercase_ne_nil (List.ne_nil_of_mem member))

end Text

open Text

/-! ## The makefile -/

/-- The line that names what is built. -/
def targetLine : List Char := ['a', 'l', 'l', ':']

/-- What stands on the only recipe line before the name of the binary. -/
def recipeStart : List Char := "\tswiftc LinuxUI.swift -o ".toList

/-- A makefile consists of a target line and one recipe line, and builds a binary whose name is one
plain word. -/
def BuildsOneBinary (makefile : List Char) : Prop :=
  ∃ binary, makefile.splitOn '\n' = [targetLine, recipeStart ++ binary, []] ∧ binary ≠ [] ∧
    ∀ c ∈ binary, isWordChar c

theorem lineFeed_notMem_lines : '\n' ∉ targetLine ∧ '\n' ∉ recipeStart := by
  decide

/-- What a makefile looks like whose binary has a given name. -/
def writtenMakefile (binary : List Char) : List Char :=
  ['\n'].intercalate [targetLine, recipeStart ++ binary, []]

theorem buildsOneBinary_iff (binary : List Char) :
    BuildsOneBinary (writtenMakefile binary) ↔ binary ≠ [] ∧ ∀ c ∈ binary, isWordChar c := by
  constructor
  · rintro ⟨other, areLines, conditions⟩
    -- The lines are put together again, so that the two names stand at the same place.
    have joined := congrArg (List.intercalate ['\n']) areLines
    rw [List.intercalate_splitOn] at joined
    have same : binary = other := by
      simpa [writtenMakefile, List.intercalate_cons_cons] using joined
    rwa [same]
  · rintro ⟨nonempty, areWord⟩
    have noLineFeed : '\n' ∉ recipeStart ++ binary := by
      rw [List.mem_append, not_or]
      exact ⟨lineFeed_notMem_lines.2, fun member => absurd (areWord '\n' member) (by decide)⟩
    refine ⟨binary, List.splitOn_intercalate '\n' ?_ (by simp), nonempty, areWord⟩
    simp [noLineFeed, lineFeed_notMem_lines.1]

namespace Boilerplate

set_option maxRecDepth 20000 in
theorem pieces_makefile :
    pieces .makefile = [.fixed (String.ofList (targetLine ++ '\n' :: recipeStart)),
      .name (some .snakeCase), .fixed "\n"] := by
  have read : (Template.ofText? (text .makefile)).bind
      (fun elements => elements.mapM pieceOf?) =
        some [.fixed (String.ofList (targetLine ++ '\n' :: recipeStart)),
          .name (some .snakeCase), .fixed "\n"] := by
    decide +kernel
  rw [ofText?_text, Option.bind_some, mapM_pieceOf?_elements] at read
  exact Option.some.inj read

theorem toList_filled_makefile (appName : String) :
    (filled appName .makefile).toList = writtenMakefile (snakeCase appName.toList) := by
  rw [filled, pieces_makefile]
  simp [Piece.filled, Template.Conversion.apply, writtenMakefile, List.intercalate_cons_cons]

end Boilerplate

/-- The makefile of a project. -/
def makefileOf (appName : String) : GeneratedFile where
  path := "Build/linux/Makefile"
  content := Boilerplate.filled appName .makefile
  isBoilerplate := true

theorem Interface.file?_makefile (interface : Interface) :
    (Project.mk (interface.files .linux)).file? "Build/linux/Makefile" =
      some (makefileOf interface.appName) := by
  have isSecond : (interface.files .linux)[1]? = some (makefileOf interface.appName) := rfl
  exact file?_eq_some isSecond

/-- For every name of an application with a letter or a number the makefile builds one binary with a
plain name exactly if all blanks and marks of a shell in the name are spaces, and if these are
clusters of their own. -/
theorem makefile_builds_one_binary_iff (interface : Interface)
    (hasLetter : ∃ c ∈ interface.appName.toList, isAlphanumeric c) :
    ∃ project file, interface.project .linux = .ok project ∧
      project.file? "Build/linux/Makefile" = some file ∧
      (BuildsOneBinary file.content.toList ↔
        (∀ c ∈ interface.appName.toList, c = ' ' ∨ isWordChar c) ∧
          interface.appName.toList.IsChain KeepsSpaceApart) := by
  refine ⟨_, _, interface.project_eq_ok .linux, interface.file?_makefile, ?_⟩
  rw [makefileOf, Boilerplate.toList_filled_makefile, buildsOneBinary_iff, isWordChar_snakeCase,
    isWordChar_words]
  exact and_iff_right (snakeCase_ne_nil hasLetter)

/-- A hyphen and a space end words, and the digit is a word of its own. -/
theorem makefile_builds_one_binary_of_spaced_name :
    (∃ c ∈ "My App-2".toList, isAlphanumeric c) ∧
    ∃ project file,
      (⟨"My App-2", .label "Hello", .empty, true⟩ : Interface).project .linux = .ok project ∧
      project.file? "Build/linux/Makefile" = some file ∧
      BuildsOneBinary file.content.toList := by
  have hasLetter : ∃ c ∈ "My App-2".toList, isAlphanumeric c :=
    ⟨'M', by decide +kernel, by decide +kernel⟩
  have isPlain : (∀ c ∈ "My App-2".toList, c = ' ' ∨ isWordChar c) ∧
      "My App-2".toList.IsChain KeepsSpaceApart := by
    decide +kernel
  obtain ⟨project, file, isProject, isFile, builds⟩ :=
    makefile_builds_one_binary_iff ⟨"My App-2", .label "Hello", .empty, true⟩ hasLetter
  exact ⟨hasLetter, project, file, isProject, isFile, builds.mpr isPlain⟩

/-- The semicolon stays, and what follows it is another command. -/
theorem makefile_can_run_second_command :
    (∃ c ∈ "a;b".toList, isAlphanumeric c) ∧
    ∃ project file,
      (⟨"a;b", .label "Hello", .empty, true⟩ : Interface).project .linux = .ok project ∧
      project.file? "Build/linux/Makefile" = some file ∧
      file.content.toList = writtenMakefile ['a', ';', 'b'] ∧
      ¬ BuildsOneBinary file.content.toList := by
  have isMakefile : (makefileOf "a;b").content.toList = writtenMakefile ['a', ';', 'b'] := by
    rw [makefileOf, Boilerplate.toList_filled_makefile]
    decide +kernel
  have hasLetter : ∃ c ∈ "a;b".toList, isAlphanumeric c :=
    ⟨'a', by decide +kernel, by decide +kernel⟩
  refine ⟨hasLetter, _, _, Interface.project_eq_ok _ .linux, Interface.file?_makefile _,
    isMakefile, ?_⟩
  rw [isMakefile, buildsOneBinary_iff]
  decide

end Polyview
