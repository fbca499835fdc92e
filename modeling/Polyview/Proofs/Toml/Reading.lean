import Polyview.Proofs.Toml.Text
import Polyview.Toml.Reader

/-!
# Reading lines back

How the reader takes the lines that manifests are written in: a header, or a bare key with a text, a
truth value, or a list of texts.
-/

namespace Polyview.Toml

open TomlString (quote)

/-! ## Values -/

/-- A spelling that is read as a value of so many levels, wherever no further quote follows it. -/
structure ReadsAs (value : Value) (levels : Nat) (spelled : List Char) : Prop where
  /-- It starts neither with a blank nor with what would end a list. -/
  begins : ∃ c body, spelled = c :: body ∧ isBlank c = false ∧ c ≠ ']'
  isRead : ∀ (fuel depth : Nat) (rest : List Char), spelled.length < fuel → levels ≤ depth →
    rest.head? ≠ some '"' → readValue fuel depth (spelled ++ rest) = some (value, rest)

theorem ReadsAs.skipBlanks {value : Value} {levels : Nat} {spelled : List Char}
    (reads : ReadsAs value levels spelled) (rest : List Char) :
    skipBlanks (spelled ++ rest) = spelled ++ rest := by
  obtain ⟨c, body, rfl, notBlank, -⟩ := reads.begins
  simp [Toml.skipBlanks, notBlank]

theorem readsAs_quote (text : String) : ReadsAs (.text text) 0 (quote text).toList where
  begins := ⟨_, _, toList_quote text, by decide, by decide⟩
  isRead := by
    intro fuel depth rest enough _ notQuote
    obtain ⟨fuel, rfl⟩ : ∃ less, fuel = less + 1 := Nat.exists_eq_succ_of_ne_zero (by omega)
    have read : readText? ('"' :: (text.toList.flatMap TomlString.escapedChar ++ '"' :: rest)) =
        some (text.toList, rest) := by
      simpa [toList_quote] using readText?_quote text notQuote
    simp [toList_quote, readValue, read]

theorem readsAs_false : ReadsAs (.boolean false) 0 ['f', 'a', 'l', 's', 'e'] where
  begins := ⟨_, _, rfl, by decide, by decide⟩
  isRead := by
    intro fuel depth rest enough _ _
    obtain ⟨fuel, rfl⟩ : ∃ less, fuel = less + 1 := Nat.exists_eq_succ_of_ne_zero (by omega)
    simp [readValue]

/-! ## Lists of texts -/

/-- Quoted texts with commas between them. -/
def listed : List String → List Char
  | [] => []
  | [text] => (quote text).toList
  | text :: rest => (quote text).toList ++ ',' :: ' ' :: listed rest

theorem skipGap_closing (fuel : Nat) (rest : List Char) :
    skipGap fuel (']' :: rest) = ']' :: rest := by
  cases fuel <;> simp [skipGap, skipBlanks, isBlank, skipComment, afterLineEnd?]

theorem skipGap_comma (fuel : Nat) (rest : List Char) :
    skipGap fuel (',' :: rest) = ',' :: rest := by
  cases fuel <;> simp [skipGap, skipBlanks, isBlank, skipComment, afterLineEnd?]

/-- A list that is not empty begins with a quote, so that only the blank before it is skipped. -/
theorem skipGap_listed {texts : List String} (nonempty : texts ≠ []) {gap : List Char}
    (isGap : gap = [] ∨ gap = [' ']) (fuel : Nat) (rest : List Char) :
    skipGap (fuel + 1) (gap ++ (listed texts ++ rest)) = listed texts ++ rest := by
  obtain ⟨body, begins⟩ : ∃ body, listed texts = '"' :: body := by
    fun_cases listed texts with
    | case1 => contradiction
    | case2 text => exact ⟨_, toList_quote text⟩
    | case3 text rest => exact ⟨_, by rw [toList_quote, List.cons_append]⟩
  rcases isGap with rfl | rfl <;>
    simp [begins, skipGap, skipBlanks, isBlank, skipComment, afterLineEnd?]

section Items

variable {value : Value} {levels : Nat} {spelled : List Char} {fuel depth : Nat}

theorem readItems_last (reads : ReadsAs value levels spelled) (deep : levels ≤ depth)
    (enough : spelled.length < fuel) (rest : List Char) :
    readItems (fuel + 1) depth (spelled ++ ']' :: rest) = some ([value], rest) := by
  have read := reads.isRead fuel depth (']' :: rest) enough deep (by simp)
  obtain ⟨c, body, rfl, -, notClosing⟩ := reads.begins
  rw [List.cons_append] at read ⊢
  rw [readItems.eq_3 _ _ _ (by simpa using notClosing), read]
  simp [skipGap_closing]

theorem readItems_more (reads : ReadsAs value levels spelled) (deep : levels ≤ depth)
    (enough : spelled.length < fuel) (rest : List Char) :
    readItems (fuel + 1) depth (spelled ++ ',' :: rest) =
      (readItems fuel depth (skipGap fuel rest)).map
        fun (items, rest) => (value :: items, rest) := by
  have read := reads.isRead fuel depth (',' :: rest) enough deep (by simp)
  obtain ⟨c, body, rfl, -, notClosing⟩ := reads.begins
  rw [List.cons_append] at read ⊢
  rw [readItems.eq_3 _ _ _ (by simpa using notClosing), read]
  cases later : readItems fuel depth (skipGap fuel rest) <;> simp [skipGap_comma, later]

end Items

theorem readItems_listed (texts : List String) {fuel : Nat} (depth : Nat)
    (enough : (listed texts).length + 1 < fuel) (rest : List Char) :
    readItems fuel depth (listed texts ++ ']' :: rest) = some (texts.map Value.text, rest) := by
  obtain ⟨fuel, rfl⟩ : ∃ less, fuel = less + 1 := Nat.exists_eq_succ_of_ne_zero (by omega)
  fun_induction listed texts generalizing fuel with
  | case1 => simp [readItems]
  | case2 text =>
      exact readItems_last (readsAs_quote text) (Nat.zero_le depth) (by omega) rest
  | case3 text more nonempty ih =>
      simp only [List.length_append, List.length_cons] at enough
      obtain ⟨fuel, rfl⟩ : ∃ less, fuel = less + 1 := Nat.exists_eq_succ_of_ne_zero (by omega)
      have isNonempty : more ≠ [] := by simpa using nonempty
      have skipped := skipGap_listed isNonempty (.inr rfl) fuel (']' :: rest)
      rw [List.append_assoc, List.cons_append, List.cons_append,
        readItems_more (readsAs_quote text) (Nat.zero_le depth) (by omega)]
      simp only [List.cons_append, List.nil_append] at skipped
      simp [skipped, ih fuel (by omega)]

theorem readsAs_listed (texts : List String) :
    ReadsAs (.list (texts.map Value.text)) 1 ('[' :: (listed texts ++ [']'])) where
  begins := ⟨_, _, rfl, by decide, by decide⟩
  isRead := by
    intro fuel depth rest enough deep _
    simp only [List.length_cons, List.length_append] at enough
    obtain ⟨fuel, rfl⟩ : ∃ less, fuel = less + 2 := ⟨fuel - 2, by omega⟩
    obtain ⟨depth, rfl⟩ : ∃ less, depth = less + 1 := ⟨depth - 1, by omega⟩
    have skipped : skipGap (fuel + 1) (listed texts ++ ']' :: rest) =
        listed texts ++ ']' :: rest := by
      by_cases isEmpty : texts = []
      · simp [isEmpty, listed, skipGap_closing]
      · exact skipGap_listed isEmpty (.inl rfl) fuel _
    have read := readItems_listed texts depth (show _ < fuel + 1 by omega) rest
    simp [readValue, skipped, read]

/-! ## Keys -/

def IsBare (key : List Char) : Prop := key ≠ [] ∧ key.all isKeyChar = true

instance (key : List Char) : Decidable (IsBare key) := inferInstanceAs (Decidable (_ ∧ _))

theorem ne_of_isKeyChar {c other : Char} (isKey : isKeyChar c = true)
    (notKey : isKeyChar other = false) : c ≠ other := by
  rintro rfl
  simp [isKey] at notKey

section BareKeys

variable {key : List Char}

theorem IsBare.begins (bare : IsBare key) : ∃ c body, key = c :: body ∧ isKeyChar c = true := by
  obtain ⟨nonempty, all⟩ := bare
  obtain ⟨c, body, rfl⟩ := List.exists_cons_of_ne_nil nonempty
  exact ⟨c, body, rfl, by simp_all⟩

theorem IsBare.head?_ne (bare : IsBare key) {other : Char} (notKey : isKeyChar other = false)
    (rest : List Char) : (key ++ rest).head? ≠ some other := by
  obtain ⟨c, body, rfl, isKey⟩ := bare.begins
  simpa using ne_of_isKeyChar isKey notKey

theorem IsBare.skipBlanks (bare : IsBare key) (rest : List Char) :
    Toml.skipBlanks (key ++ rest) = key ++ rest := by
  obtain ⟨c, body, rfl, isKey⟩ := bare.begins
  have notBlank : c ≠ ' ' := ne_of_isKeyChar isKey (by decide)
  have notTab : c ≠ '\t' := ne_of_isKeyChar isKey (by decide)
  simp [Toml.skipBlanks, isBlank, notBlank, notTab]

theorem IsBare.afterLine? (bare : IsBare key) (rest : List Char) :
    Toml.afterLine? (key ++ rest) = none := by
  have flush := bare.skipBlanks rest
  obtain ⟨c, body, rfl, isKey⟩ := bare.begins
  have notComment : c ≠ '#' := ne_of_isKeyChar isKey (by decide)
  have notLineFeed : c ≠ '\n' := ne_of_isKeyChar isKey (by decide)
  have notReturn : c ≠ '\r' := ne_of_isKeyChar isKey (by decide)
  rw [Toml.afterLine?, flush]
  simp [skipComment, afterLineEnd?, notComment, notLineFeed, notReturn]

theorem readKeyPart_bare (bare : IsBare key) {c : Char} (ends : isKeyChar c = false)
    (rest : List Char) :
    readKeyPart (key ++ c :: rest) = some (String.ofList key, c :: rest) := by
  have all := List.all_eq_true.mp bare.2
  have notQuoted : ¬((key ++ c :: rest).head? = some '"' ∨
      (key ++ c :: rest).head? = some '\x27') := by
    simp only [bare.head?_ne (show isKeyChar '"' = false by decide),
      bare.head?_ne (show isKeyChar '\x27' = false by decide), or_self, not_false_eq_true]
  have taken : (key ++ c :: rest).takeWhile isKeyChar = key := by
    simp [List.takeWhile_append_of_pos all, ends]
  have dropped : (key ++ c :: rest).dropWhile isKeyChar = c :: rest := by
    simp [List.dropWhile_append_of_pos all, ends]
  rw [readKeyPart, if_neg notQuoted, taken, dropped]
  obtain ⟨first, body, rfl, -⟩ := bare.begins
  rfl

/-- A bare key is read, and the blanks after it are skipped. -/
theorem readKey_bare (bare : IsBare key) {c : Char} (ends : isKeyChar c = false)
    (rest : List Char) (notDotted : ∀ body, skipBlanks (c :: rest) ≠ '.' :: body) :
    readKey (key ++ c :: rest) = some ([String.ofList key], skipBlanks (c :: rest)) := by
  have parts (fuel : Nat) : readKeyParts (fuel + 1) (key ++ c :: rest) =
      some ([String.ofList key], skipBlanks (c :: rest)) := by
    simp only [readKeyParts, bare.skipBlanks, readKeyPart_bare bare ends, Option.bind_eq_bind,
      Option.bind_some]
    rfl
  simp only [readKey, parts]
  rfl

end BareKeys

/-! ## Lines -/

/-- The line that defines a table. -/
def header (key : List Char) : List Char := '[' :: (key ++ [']', '\n'])

/-- The line that puts a value under a key. -/
def pair (key spelled : List Char) : List Char := key ++ ' ' :: '=' :: ' ' :: (spelled ++ ['\n'])

theorem afterLine?_lineFeed (rest : List Char) : afterLine? ('\n' :: rest) = some rest := by
  rfl

theorem readLine_blank (progress : Progress) (rest : List Char) :
    readLine progress ('\n' :: rest) = some (progress, rest) := by
  rfl

theorem readLine_header {key : List Char} (bare : IsBare key) (progress : Progress)
    (rest : List Char) :
    readLine progress (header key ++ rest) =
      (progress.define [String.ofList key] defineTable).map fun progress => (progress, rest) := by
  have readKey := readKey_bare bare (show isKeyChar ']' = false by decide) ('\n' :: rest)
    (by simp [skipBlanks, isBlank])
  have notTables : ∀ body, key ++ ']' :: '\n' :: rest ≠ '[' :: body := by
    intro body begins
    exact bare.head?_ne (show isKeyChar '[' = false by decide) (']' :: '\n' :: rest)
      (by rw [begins]; rfl)
  have flush : skipBlanks ('[' :: (key ++ ']' :: '\n' :: rest)) =
      '[' :: (key ++ ']' :: '\n' :: rest) := by
    simp [skipBlanks, isBlank]
  have ending : skipBlanks (']' :: '\n' :: rest) = ']' :: '\n' :: rest := by
    simp [skipBlanks, isBlank]
  rw [ending] at readKey
  have line : header key ++ rest = '[' :: (key ++ ']' :: '\n' :: rest) := by simp [header]
  unfold readLine
  rw [line, flush]
  dsimp only
  split
  next body begins => exact absurd (List.cons.inj begins).2 (notTables body)
  next body _ begins =>
    obtain rfl := (List.cons.inj begins).2
    simp only [readKey, Option.bind_eq_bind, Option.bind_some, afterLine?_lineFeed]
    cases progress.define [String.ofList key] defineTable <;> rfl
  next notHeader => exact absurd rfl (notHeader _)

theorem readLine_pair {key : List Char} (bare : IsBare key) {value : Value} {levels : Nat}
    {spelled : List Char} (reads : ReadsAs value levels spelled) (shallow : levels < nestingLimit)
    (progress : Progress) (rest : List Char) :
    readLine progress (pair key spelled ++ rest) =
      (progress.put [String.ofList key] value).map fun progress => (progress, rest) := by
  have readKey := readKey_bare bare (show isKeyChar ' ' = false by decide)
    ('=' :: ' ' :: (spelled ++ '\n' :: rest)) (by simp [skipBlanks, isBlank])
  have ending : skipBlanks (' ' :: '=' :: ' ' :: (spelled ++ '\n' :: rest)) =
      '=' :: ' ' :: (spelled ++ '\n' :: rest) := by
    simp [skipBlanks, isBlank]
  have flush : skipBlanks (' ' :: (spelled ++ '\n' :: rest)) = spelled ++ '\n' :: rest :=
    reads.skipBlanks ('\n' :: rest)
  have readValue := reads.isRead (2 * (' ' :: (spelled ++ '\n' :: rest)).length + 2)
    (nestingLimit - 1) ('\n' :: rest)
    (by simp only [List.length_cons, List.length_append]; omega) (by omega) (by simp)
  rw [ending] at readKey
  have notEmpty := bare.afterLine? (' ' :: '=' :: ' ' :: (spelled ++ '\n' :: rest))
  have line : pair key spelled ++ rest =
      key ++ ' ' :: '=' :: ' ' :: (spelled ++ '\n' :: rest) := by
    simp [pair]
  unfold readLine
  rw [line, bare.skipBlanks]
  dsimp only
  split
  next body begins =>
    exact absurd (by rw [begins]; rfl) (bare.head?_ne (show isKeyChar '[' = false by decide) _)
  next body _ begins =>
    exact absurd (by rw [begins]; rfl) (bare.head?_ne (show isKeyChar '[' = false by decide) _)
  next =>
    simp only [notEmpty, readKey, Option.bind_eq_bind, Option.bind_some, flush, readValue,
      afterLine?_lineFeed]
    cases progress.put [String.ofList key] value <;> rfl

/-- Lines that take the reader from one point to the end. -/
inductive Lines : Progress → List Char → Progress → Prop where
  | done {progress : Progress} : Lines progress [] progress
  | line {progress next last : Progress} {text rest : List Char}
      (read : readLine progress text = some (next, rest)) (isShorter : rest.length < text.length)
      (lines : Lines next rest last) : Lines progress text last

namespace Lines

variable {progress next last : Progress} {rest : List Char}

theorem ofBlank (lines : Lines progress rest last) : Lines progress ('\n' :: rest) last :=
  .line (readLine_blank progress rest) (by simp) lines

theorem ofHeader {key : List Char} (bare : IsBare key)
    (defined : progress.define [String.ofList key] defineTable = some next)
    (lines : Lines next rest last) : Lines progress (header key ++ rest) last := by
  refine .line ?_ (by simp only [header, List.length_append, List.length_cons]; omega) lines
  rw [readLine_header bare, defined]
  rfl

theorem ofPair {key : List Char} (bare : IsBare key) {value : Value} {levels : Nat}
    {spelled : List Char} (reads : ReadsAs value levels spelled) (shallow : levels < nestingLimit)
    (put : progress.put [String.ofList key] value = some next) (lines : Lines next rest last) :
    Lines progress (pair key spelled ++ rest) last := by
  refine .line ?_ (by simp only [pair, List.length_append, List.length_cons]; omega) lines
  rw [readLine_pair bare reads shallow, put]
  rfl

/-- A reader that may take as many lines as there are characters gets to the end. -/
theorem readAll {text : List Char} (lines : Lines progress text last) {fuel : Nat}
    (enough : text.length ≤ fuel) : readAll fuel progress text = some last := by
  induction lines generalizing fuel with
  | done => cases fuel <;> rfl
  | @line progress next last text rest read isShorter _ ih =>
      obtain ⟨fuel, rfl⟩ : ∃ less, fuel = less + 1 := ⟨fuel - 1, by omega⟩
      have nonempty : text ≠ [] := by
        rintro rfl
        simp at isShorter
      simp [Toml.readAll, read, ih (show rest.length ≤ fuel by omega)]

theorem ofText? {text : String} (lines : Lines ⟨[], []⟩ text.toList last)
    (unmarked : withoutMark text.toList = text.toList) :
    ofText? text = some (Item.toMembers last.entries) := by
  simp [Toml.ofText?, unmarked, lines.readAll (Nat.le_succ _)]

end Lines

end Polyview.Toml
