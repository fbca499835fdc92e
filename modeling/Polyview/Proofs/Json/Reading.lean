import Mathlib.Data.List.Basic
import Polyview.Proofs.Json.Nesting
import Polyview.Proofs.Json.Spelling

/-!
# Reading what has been spelled

A reader that starts at the spelling of a value finds that value and stops directly behind it. Where
it stands in lines and columns does not matter here, so only what is left to read is followed.
-/

namespace Polyview.Json

/-- A reader finds a value and stops where `rest` is left. -/
def Yields {α ε : Type} (result : Except ε (α × Cursor)) (value : α) (rest : List Char) : Prop :=
  ∃ cursor : Cursor, result = .ok (value, cursor) ∧ cursor.rest = rest

theorem Yields.bind {α β ε : Type} {result : Except ε (α × Cursor)} {value : α}
    {next : α × Cursor → Except ε (β × Cursor)} {other : β} {middle rest : List Char}
    (yields : Yields result value middle)
    (onward : ∀ cursor : Cursor, cursor.rest = middle → Yields (next (value, cursor)) other rest) :
    Yields (result >>= next) other rest := by
  obtain ⟨cursor, ok, left⟩ := yields
  rw [ok]
  exact onward cursor left

theorem Yields.done {α ε : Type} {value : α} {cursor : Cursor} {rest : List Char}
    (left : cursor.rest = rest) :
    Yields (pure (value, cursor) : Except ε (α × Cursor)) value rest :=
  ⟨cursor, rfl, left⟩

def StartsVisibly (text : List Char) : Prop := ∀ c ∈ text.head?, Cursor.isGap c = false

namespace Cursor

@[simp]
theorem rest_skip (cursor : Cursor) (count : Nat) :
    (cursor.skip count).rest = cursor.rest.drop count :=
  rfl

theorem rest_skipGap (cursor : Cursor) :
    cursor.skipGap.rest = cursor.rest.dropWhile isGap :=
  rfl

/-- Passing over blanks stops at the first character that is none. -/
theorem rest_skipGap_of_gap {cursor : Cursor} {gap rest : List Char} (gapOnly : IsGap gap)
    (visible : StartsVisibly rest) (left : cursor.rest = gap ++ rest) :
    cursor.skipGap.rest = rest := by
  rw [rest_skipGap, left, List.dropWhile_append_of_pos gapOnly]
  cases rest with
  | nil => rfl
  | cons c more => simp [visible c (by simp)]

end Cursor

/-! ## Texts -/

theorem hexValue?_lowerHexDigit :
    ∀ digit < 16, hexValue? (lowerHexDigit digit) = some digit := by
  decide

/-- The four digits that a control character is written with give its number. -/
theorem codeUnit?_lowerHexDigits {number : Nat} (small : number < 0x20) :
    codeUnit? '0' '0' (lowerHexDigit (number / 16)) (lowerHexDigit (number % 16)) =
      some number := by
  have zero : hexValue? '0' = some 0 := by decide
  have high := hexValue?_lowerHexDigit (number / 16) (by omega)
  have low := hexValue?_lowerHexDigit (number % 16) (by omega)
  simp only [codeUnit?, zero, high, low, Option.bind_eq_bind, Option.bind_some, Option.pure_def,
    Option.some.injEq]
  omega

theorem readTextFrom_quote (known : List Char) (position : Position) (rest : List Char) :
    readTextFrom known position ('"' :: rest) =
      .ok (String.ofList known.reverse, ⟨rest, position.forward 1⟩) := by
  rw [readTextFrom.eq_def]
  simp

theorem readTextFrom_plain (known : List Char) (position : Position) {c : Char}
    (rest : List Char) (notQuote : c ≠ '"') (notBackslash : c ≠ '\\')
    (notControl : ¬ c.toNat < 0x20) :
    readTextFrom known position (c :: rest) =
      readTextFrom (c :: known) (position.after c) rest := by
  rw [readTextFrom.eq_def]
  simp [notQuote, notBackslash, notControl]

theorem readTextFrom_shortEscape (known : List Char) (position : Position) {mark plain : Char}
    (rest : List Char) (notUnit : mark ≠ 'u') (short : shortEscape? mark = some plain) :
    readTextFrom known position ('\\' :: mark :: rest) =
      readTextFrom (plain :: known) (position.forward 2) rest := by
  rw [readTextFrom.eq_def]
  simp [notUnit, short]

theorem readTextFrom_codeUnit (known : List Char) (position : Position) {a b c d : Char}
    {unit : Nat} (rest : List Char) (isUnit : codeUnit? a b c d = some unit)
    (notLow : isLowSurrogate unit = false) (notHigh : isHighSurrogate unit = false) :
    readTextFrom known position ('\\' :: 'u' :: a :: b :: c :: d :: rest) =
      readTextFrom (Char.ofNat unit :: known) (position.forward 6) rest := by
  rw [readTextFrom.eq_def]
  simp [isUnit, notLow, notHigh]

/-- Reading takes up one written character at a time. -/
theorem readTextFrom_writtenChar (known : List Char) (position : Position) (c : Char)
    (rest : List Char) :
    ∃ after, readTextFrom known position (writtenChar c ++ rest) =
      readTextFrom (c :: known) after rest := by
  have escaped (mark : Char) (notUnit : mark ≠ 'u') (short : shortEscape? mark = some c) :
      ∃ after, readTextFrom known position (['\\', mark] ++ rest) =
        readTextFrom (c :: known) after rest :=
    ⟨_, readTextFrom_shortEscape known position rest notUnit short⟩
  unfold writtenChar
  split_ifs with quote backslash backspace formFeed lineFeed carriageReturn tab control
  · exact escaped '"' (by decide) (by rw [quote]; rfl)
  · exact escaped '\\' (by decide) (by rw [backslash]; rfl)
  · exact escaped 'b' (by decide) (by rw [backspace]; rfl)
  · exact escaped 'f' (by decide) (by rw [formFeed]; rfl)
  · exact escaped 'n' (by decide) (by rw [lineFeed]; rfl)
  · exact escaped 'r' (by decide) (by rw [carriageReturn]; rfl)
  · exact escaped 't' (by decide) (by rw [tab]; rfl)
  · have step := readTextFrom_codeUnit known position rest (codeUnit?_lowerHexDigits control)
      (by simp [isLowSurrogate]; omega) (by simp [isHighSurrogate]; omega)
    rw [Char.ofNat_toNat] at step
    exact ⟨_, step⟩
  · exact ⟨_, readTextFrom_plain known position rest quote backslash control⟩

theorem readTextFrom_written (text : List Char) (known : List Char) (position : Position)
    (rest : List Char) :
    Yields (readTextFrom known position (text.flatMap writtenChar ++ '"' :: rest))
      (String.ofList (known.reverse ++ text)) rest := by
  induction text generalizing known position with
  | nil => exact ⟨_, by simpa using readTextFrom_quote known position rest, rfl⟩
  | cons c text ih =>
      obtain ⟨after, step⟩ := readTextFrom_writtenChar known position c
        (text.flatMap writtenChar ++ '"' :: rest)
      have later := ih (c :: known) after
      rw [List.flatMap_cons, List.append_assoc, step]
      simpa using later

/-- A text is read back from between its quotes. -/
theorem readText_written {cursor : Cursor} {text : String} {rest : List Char}
    (left : cursor.rest = writtenText text ++ rest) :
    Yields (readText (cursor.skip 1)) text rest := by
  have within : (cursor.skip 1).rest = text.toList.flatMap writtenChar ++ '"' :: rest := by
    simp [left, writtenText]
  rw [readText, within]
  simpa using readTextFrom_written text.toList [] (cursor.skip 1).position rest

/-! ## Words, colons and commas -/

/-- A reader passes over something and stops where `rest` is left. -/
def Leaves {ε : Type} (result : Except ε Cursor) (rest : List Char) : Prop :=
  ∃ cursor : Cursor, result = .ok cursor ∧ cursor.rest = rest

theorem Leaves.bind {β ε : Type} {result : Except ε Cursor}
    {next : Cursor → Except ε (β × Cursor)} {other : β} {middle rest : List Char}
    (leaves : Leaves result middle)
    (onward : ∀ cursor : Cursor, cursor.rest = middle → Yields (next cursor) other rest) :
    Yields (result >>= next) other rest := by
  obtain ⟨cursor, ok, left⟩ := leaves
  rw [ok]
  exact onward cursor left

theorem readWord_leaves (word : List Char) {cursor : Cursor} {rest : List Char}
    (left : cursor.rest = word ++ rest) : Leaves (readWord word cursor) rest := by
  induction word generalizing cursor with
  | nil => exact ⟨cursor, rfl, left⟩
  | cons letter word ih => simpa [readWord, left] using ih (by simp)

theorem readColon_leaves {cursor : Cursor} {gap rest : List Char} (isGap : IsGap gap)
    (left : cursor.rest = gap ++ ':' :: rest) : Leaves (readColon cursor) rest := by
  have colon := Cursor.rest_skipGap_of_gap isGap (by simp [StartsVisibly, Cursor.isGap]) left
  exact ⟨cursor.skipGap.skip 1, by simp [readColon, colon], by simp [colon]⟩

/-- The characters that a spelled value can start with. -/
def startsSpelling (c : Char) : Bool :=
  c == 'n' || c == 't' || c == 'f' || c == '"' || c == '[' || c == '{'

theorem head_of_spells {value : Value} {chars : List Char} (spelled : Spells (.value value) chars) :
    ∃ c more, chars = c :: more ∧ startsSpelling c = true := by
  cases spelled with
  | null | yes | no | list | object => exact ⟨_, _, rfl, by decide⟩
  | text plain => exact ⟨'"', plain.toList.flatMap writtenChar ++ ['"'], rfl, by decide⟩

theorem isGap_of_startsSpelling {c : Char} (starts : startsSpelling c = true) :
    Cursor.isGap c = false := by
  simp only [startsSpelling, Bool.or_eq_true, beq_iff_eq] at starts
  rcases starts with ((((rfl | rfl) | rfl) | rfl) | rfl) | rfl <;> rfl

theorem startsVisibly_of_spells {value : Value} {chars : List Char}
    (spelled : Spells (.value value) chars) (rest : List Char) :
    StartsVisibly (chars ++ rest) := by
  obtain ⟨c, more, rfl, starts⟩ := head_of_spells spelled
  simpa [StartsVisibly] using isGap_of_startsSpelling starts

theorem nextItem?_closed (isFirst : Bool) {cursor : Cursor} {gap rest : List Char}
    (isGap : IsGap gap) (left : cursor.rest = gap ++ ']' :: rest) :
    nextItem? isFirst cursor = .ok none := by
  have closing := Cursor.rest_skipGap_of_gap isGap (by simp [StartsVisibly, Cursor.isGap]) left
  simp [nextItem?, closing]

/-- The next item is found behind its comma and the blanks around that. -/
theorem nextItem?_lead (isFirst : Bool) {cursor : Cursor} {gap space more : List Char} {c : Char}
    (isGap : IsGap gap) (isSpace : IsGap space) (visible : Cursor.isGap c = false)
    (notClosing : c ≠ ']') (left : cursor.rest = lead isFirst gap space ++ c :: more) :
    ∃ after : Cursor, nextItem? isFirst cursor = .ok (some after) ∧ after.rest = c :: more := by
  have starts : StartsVisibly (c :: more) := by simpa [StartsVisibly] using visible
  cases isFirst with
  | true =>
      have found : cursor.skipGap.rest = c :: more :=
        Cursor.rest_skipGap_of_gap isSpace starts (by simpa [lead] using left)
      exact ⟨cursor.skipGap, by simp [nextItem?, found, notClosing], found⟩
  | false =>
      have separated : cursor.skipGap.rest = ',' :: (space ++ c :: more) :=
        Cursor.rest_skipGap_of_gap isGap (by simp [StartsVisibly, Cursor.isGap])
          (by simpa [lead] using left)
      have found : (cursor.skipGap.skip 1).skipGap.rest = c :: more :=
        Cursor.rest_skipGap_of_gap isSpace starts (by simp [separated])
      exact ⟨_, by simp [nextItem?, separated, found, notClosing], found⟩

theorem nextItem?_open (isFirst : Bool) {cursor : Cursor} {gap chars rest : List Char}
    {item : Value} (isGap : IsGap gap) (spelled : Spells (.value item) chars)
    (left : cursor.rest = comma isFirst ++ gap ++ chars ++ rest) :
    ∃ after : Cursor, nextItem? isFirst cursor = .ok (some after) ∧
      after.skipGap.rest = chars ++ rest := by
  have visible := startsVisibly_of_spells spelled rest
  obtain ⟨c, more, rfl, starts⟩ := head_of_spells spelled
  have notClosing : c ≠ ']' := by
    rintro rfl
    revert starts
    decide
  rw [comma_append] at left
  obtain ⟨after, next, behind⟩ := nextItem?_lead isFirst isGap_nil isGap
    (isGap_of_startsSpelling starts) notClosing (by simpa using left)
  exact ⟨after, next, Cursor.rest_skipGap_of_gap isGap_nil visible (by simpa using behind)⟩

theorem nextName?_closed (isFirst : Bool) {cursor : Cursor} {gap rest : List Char}
    (isGap : IsGap gap) (left : cursor.rest = gap ++ '}' :: rest) :
    nextName? isFirst cursor = .ok none := by
  have closing := Cursor.rest_skipGap_of_gap isGap (by simp [StartsVisibly, Cursor.isGap]) left
  simp [nextName?, closing]

/-- The next name is found behind its comma and the blanks around that. -/
theorem nextName?_lead (isFirst : Bool) {cursor : Cursor} {gap space more : List Char}
    (isGap : IsGap gap) (isSpace : IsGap space)
    (left : cursor.rest = lead isFirst gap space ++ '"' :: more) :
    ∃ start : Cursor, nextName? isFirst cursor = some <$> readText (start.skip 1) ∧
      start.rest = '"' :: more := by
  have starts : StartsVisibly ('"' :: more) := by simp [StartsVisibly, Cursor.isGap]
  cases isFirst with
  | true =>
      have found : cursor.skipGap.rest = '"' :: more :=
        Cursor.rest_skipGap_of_gap isSpace starts (by simpa [lead] using left)
      exact ⟨cursor.skipGap, by simp [nextName?, found], found⟩
  | false =>
      have separated : cursor.skipGap.rest = ',' :: (space ++ '"' :: more) :=
        Cursor.rest_skipGap_of_gap isGap (by simp [StartsVisibly, Cursor.isGap])
          (by simpa [lead] using left)
      have found : (cursor.skipGap.skip 1).skipGap.rest = '"' :: more :=
        Cursor.rest_skipGap_of_gap isSpace starts (by simp [separated])
      exact ⟨_, by simp [nextName?, separated, found], found⟩

theorem nextName?_open (isFirst : Bool) {cursor : Cursor} {gap rest : List Char} {name : String}
    (isGap : IsGap gap) (left : cursor.rest = comma isFirst ++ gap ++ writtenText name ++ rest) :
    ∃ after : Cursor, nextName? isFirst cursor = .ok (some (name, after)) ∧ after.rest = rest := by
  rw [comma_append] at left
  obtain ⟨start, next, found⟩ := nextName?_lead isFirst isGap_nil isGap
    (by simpa [writtenText] using left)
  have isRead : Yields (readText (start.skip 1)) name rest :=
    readText_written (by simpa [writtenText] using found)
  obtain ⟨after, read, behind⟩ := isRead
  exact ⟨after, by rw [next, read]; rfl, behind⟩

/-! ## Values -/

def Piece.nesting : Piece → Nat
  | .value whole => whole.nesting
  | .items _ all => Value.nestingOfItems all
  | .members _ all => Value.nestingOfMembers all

/-- The reader for a kind of piece finds that piece at the start of a text and stops behind it. -/
def Piece.IsReadFrom (fuel depth : Nat) (chars rest : List Char) : Piece → Prop
  | .value whole => ∀ cursor : Cursor, cursor.skipGap.rest = chars ++ rest →
      Yields (readValueWithin fuel depth cursor) whole rest
  | .items isFirst all => ∀ cursor : Cursor, cursor.rest = chars ++ rest →
      Yields (readItems fuel depth isFirst cursor) all rest
  | .members isFirst all => ∀ cursor : Cursor, cursor.rest = chars ++ rest →
      Yields (readMembers fuel depth isFirst cursor) all rest

variable {fuel depth : Nat} {rest : List Char}

theorem isReadFrom_null :
    (Piece.value .null).IsReadFrom (fuel + 1) depth ['n', 'u', 'l', 'l'] rest := by
  intro cursor found
  unfold readValueWithin
  simp only [found, List.cons_append, ↓reduceIte]
  exact (readWord_leaves ['u', 'l', 'l'] (by simp [found])).bind fun _ left => .done left

theorem isReadFrom_yes :
    (Piece.value (.boolean true)).IsReadFrom (fuel + 1) depth ['t', 'r', 'u', 'e'] rest := by
  intro cursor found
  unfold readValueWithin
  simp only [found, List.cons_append, Char.reduceEq, ↓reduceIte]
  exact (readWord_leaves ['r', 'u', 'e'] (by simp [found])).bind fun _ left => .done left

theorem isReadFrom_no :
    (Piece.value (.boolean false)).IsReadFrom (fuel + 1) depth ['f', 'a', 'l', 's', 'e'] rest := by
  intro cursor found
  unfold readValueWithin
  simp only [found, List.cons_append, Char.reduceEq, ↓reduceIte]
  exact (readWord_leaves ['a', 'l', 's', 'e'] (by simp [found])).bind fun _ left => .done left

theorem isReadFrom_text (text : String) :
    (Piece.value (.text text)).IsReadFrom (fuel + 1) depth (writtenText text) rest := by
  intro cursor found
  have starts := found
  simp only [writtenText, List.cons_append] at starts
  unfold readValueWithin
  simp only [starts, Char.reduceEq, ↓reduceIte, show Char.isDigit '"' = false from rfl,
    Bool.false_eq_true]
  exact (readText_written found).bind fun _ left => .done left

theorem isReadFrom_list {items : List Value} {chars : List Char}
    (inside : (Piece.items true items).IsReadFrom fuel depth chars rest) :
    (Piece.value (.list items)).IsReadFrom (fuel + 1) (depth + 1) ('[' :: chars) rest := by
  intro cursor found
  unfold readValueWithin
  simp only [found, List.cons_append, Char.reduceEq, ↓reduceIte,
    show Char.isDigit '[' = false from rfl, Bool.false_eq_true]
  exact (inside (cursor.skipGap.skip 1) (by simp [found])).bind fun _ left => .done left

theorem isReadFrom_object {members : List (String × Value)} {chars : List Char}
    (inside : (Piece.members true members).IsReadFrom fuel depth chars rest) :
    (Piece.value (.object members)).IsReadFrom (fuel + 1) (depth + 1) ('{' :: chars) rest := by
  intro cursor found
  unfold readValueWithin
  simp only [found, List.cons_append, Char.reduceEq, ↓reduceIte,
    show Char.isDigit '{' = false from rfl, Bool.false_eq_true]
  exact (inside (cursor.skipGap.skip 1) (by simp [found])).bind fun _ left => .done left

theorem isReadFrom_noItem (isFirst : Bool) {gap : List Char} (isGap : IsGap gap) :
    (Piece.items isFirst []).IsReadFrom (fuel + 1) depth (gap ++ [']']) rest := by
  intro cursor found
  have left : cursor.rest = gap ++ ']' :: rest := by simpa using found
  have closing := Cursor.rest_skipGap_of_gap isGap (by simp [StartsVisibly, Cursor.isGap]) left
  rw [readItems, nextItem?_closed isFirst isGap left]
  exact .done (by simp [closing])

theorem isReadFrom_item (isFirst : Bool) {item : Value} {items : List Value}
    {gap chars more : List Char} (isGap : IsGap gap) (spelled : Spells (.value item) chars)
    (first : (Piece.value item).IsReadFrom fuel depth chars (more ++ rest))
    (later : (Piece.items false items).IsReadFrom fuel depth more rest) :
    (Piece.items isFirst (item :: items)).IsReadFrom (fuel + 1) depth
      (comma isFirst ++ gap ++ chars ++ more) rest := by
  intro cursor found
  obtain ⟨start, next, left⟩ :=
    nextItem?_open isFirst isGap spelled (by simpa only [List.append_assoc] using found)
  rw [readItems, next]
  exact (first start left).bind fun middle behind =>
    (later middle behind).bind fun _ left => .done left

theorem isReadFrom_noMember (isFirst : Bool) {gap : List Char} (isGap : IsGap gap) :
    (Piece.members isFirst []).IsReadFrom (fuel + 1) depth (gap ++ ['}']) rest := by
  intro cursor found
  have left : cursor.rest = gap ++ '}' :: rest := by simpa using found
  have closing := Cursor.rest_skipGap_of_gap isGap (by simp [StartsVisibly, Cursor.isGap]) left
  rw [readMembers, nextName?_closed isFirst isGap left]
  exact .done (by simp [closing])

theorem isReadFrom_member (isFirst : Bool) (name : String) {value : Value}
    {members : List (String × Value)} {gap space chars more : List Char} (isGap : IsGap gap)
    (isSpace : IsGap space) (spelled : Spells (.value value) chars)
    (first : (Piece.value value).IsReadFrom fuel depth chars (more ++ rest))
    (later : (Piece.members false members).IsReadFrom fuel depth more rest) :
    (Piece.members isFirst ((name, value) :: members)).IsReadFrom (fuel + 1) depth
      (comma isFirst ++ gap ++ writtenText name ++ ':' :: space ++ chars ++ more) rest := by
  intro cursor found
  obtain ⟨start, next, left⟩ :=
    nextName?_open isFirst isGap (by simpa only [List.append_assoc] using found)
  rw [readMembers, next]
  refine (readColon_leaves isGap_nil left).bind fun colon behind => ?_
  have starts := Cursor.rest_skipGap_of_gap isSpace (startsVisibly_of_spells spelled _) behind
  exact (first colon starts).bind fun middle behind =>
    (later middle behind).bind fun _ left => .done left

theorem length_pos_of_spells {piece : Piece} {chars : List Char} (spelled : Spells piece chars) :
    0 < chars.length := by
  induction spelled with
  | null | yes | no | text | list | object | noItem | noMember => simp [writtenText]
  | item _ _ _ _ firstIH _ | member _ _ _ _ _ _ firstIH _ =>
      simp only [List.length_append]
      omega

theorem exists_step_of_spells (fuel : Nat) {piece : Piece} {chars : List Char}
    (spelled : Spells piece chars) (enough : chars.length ≤ fuel) : ∃ later, fuel = later + 1 := by
  have positive := length_pos_of_spells spelled
  exact Nat.exists_eq_succ_of_ne_zero (by omega)

/-- Every spelling is read as what it spells, if the nesting is within the limit. Two steps for each
character are enough. -/
theorem isReadFrom_of_spells {piece : Piece} {chars : List Char} (spelled : Spells piece chars)
    (enough : 2 * chars.length ≤ fuel) (shallow : piece.nesting ≤ depth) :
    piece.IsReadFrom fuel depth chars rest := by
  induction spelled generalizing fuel depth rest with
  | null =>
      obtain ⟨fuel, rfl⟩ := exists_step_of_spells fuel .null (by omega)
      exact isReadFrom_null
  | yes =>
      obtain ⟨fuel, rfl⟩ := exists_step_of_spells fuel .yes (by omega)
      exact isReadFrom_yes
  | no =>
      obtain ⟨fuel, rfl⟩ := exists_step_of_spells fuel .no (by omega)
      exact isReadFrom_no
  | text plain =>
      obtain ⟨fuel, rfl⟩ := exists_step_of_spells fuel (.text plain) (by omega)
      exact isReadFrom_text plain
  | list inside ih =>
      obtain ⟨fuel, rfl⟩ := exists_step_of_spells fuel (.list inside) (by omega)
      simp only [Piece.nesting, Value.nesting] at shallow
      obtain ⟨depth, rfl⟩ := Nat.exists_eq_add_of_le' (Nat.le_of_add_left_le shallow)
      simp only [List.length_cons] at enough
      exact isReadFrom_list (ih (by omega) (Nat.le_of_succ_le_succ shallow))
  | object inside ih =>
      obtain ⟨fuel, rfl⟩ := exists_step_of_spells fuel (.object inside) (by omega)
      simp only [Piece.nesting, Value.nesting] at shallow
      obtain ⟨depth, rfl⟩ := Nat.exists_eq_add_of_le' (Nat.le_of_add_left_le shallow)
      simp only [List.length_cons] at enough
      exact isReadFrom_object (ih (by omega) (Nat.le_of_succ_le_succ shallow))
  | noItem isFirst isGap =>
      obtain ⟨fuel, rfl⟩ := exists_step_of_spells fuel (.noItem isFirst isGap) (by omega)
      exact isReadFrom_noItem isFirst isGap
  | item isFirst isGap first later firstIH laterIH =>
      obtain ⟨fuel, rfl⟩ := exists_step_of_spells fuel (.item isFirst isGap first later) (by omega)
      have firstPositive := length_pos_of_spells first
      have laterPositive := length_pos_of_spells later
      obtain ⟨firstShallow, laterShallow⟩ := Nat.max_le.1 shallow
      simp only [List.length_append] at enough
      exact isReadFrom_item isFirst isGap first (firstIH (by omega) firstShallow)
        (laterIH (by omega) laterShallow)
  | noMember isFirst isGap =>
      obtain ⟨fuel, rfl⟩ := exists_step_of_spells fuel (.noMember isFirst isGap) (by omega)
      exact isReadFrom_noMember isFirst isGap
  | member isFirst name isGap isSpace first later firstIH laterIH =>
      obtain ⟨fuel, rfl⟩ :=
        exists_step_of_spells fuel (.member isFirst name isGap isSpace first later) (by omega)
      obtain ⟨firstShallow, laterShallow⟩ := Nat.max_le.1 shallow
      simp only [List.length_append, List.length_cons] at enough
      exact isReadFrom_member isFirst name isGap isSpace first (firstIH (by omega) firstShallow)
        (laterIH (by omega) laterShallow)

/-- A spelled value is read back, whatever follows it. -/
theorem readValue_of_spells {value : Value} {chars : List Char}
    (spelled : Spells (.value value) chars) (shallow : value.nesting ≤ depth) {cursor : Cursor}
    {gap : List Char} (isGap : IsGap gap) (left : cursor.rest = gap ++ chars ++ rest) :
    Yields (readValue depth cursor) value rest := by
  have starts : cursor.skipGap.rest = chars ++ rest :=
    Cursor.rest_skipGap_of_gap isGap (startsVisibly_of_spells spelled rest) (by simpa using left)
  have enough : 2 * chars.length ≤ stepsFor cursor := by
    simp [stepsFor, left]
    omega
  exact isReadFrom_of_spells spelled enough shallow cursor starts

end Polyview.Json
