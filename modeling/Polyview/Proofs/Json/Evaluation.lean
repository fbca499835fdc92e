import Polyview.Proofs.Json.Scanning

/-!
# Reading phrases

Every phrase can be evaluated without its text: it is the value that the reader finds, or it is none
because a number is out of range, half a surrogate pair stands alone, or lists and objects are
nested too deep. A value that nobody needs is passed over whatever it is.
-/

namespace Polyview.Json

namespace Phrase

mutual

/-- The value of a phrase, where so many more lists and objects may be opened. -/
def value? : Nat → Phrase → Option Value
  | _, .null => some .null
  | _, .boolean value => some (.boolean value)
  | _, .number numeral => numeral.value?.map .number
  | _, .text units => (TextUnit.text? units).map .text
  | 0, .list _ => none
  | depth + 1, .list items => (values? depth items).map .list
  | 0, .object _ => none
  | depth + 1, .object members => (memberValues? depth members).map .object

def values? : Nat → List Phrase → Option (List Value)
  | _, [] => some []
  | depth, item :: rest =>
      (item.value? depth).bind fun value => (values? depth rest).map (value :: ·)

def memberValues? : Nat → List (List TextUnit × Phrase) → Option (List (String × Value))
  | _, [] => some []
  | depth, (units, phrase) :: rest =>
      (TextUnit.text? units).bind fun name =>
        (phrase.value? depth).bind fun value => (memberValues? depth rest).map ((name, value) :: ·)

end

/-- Whether a phrase can start with a character. -/
def startsWith : Phrase → Char → Bool
  | .null, c => c == 'n'
  | .boolean value, c => c == if value then 't' else 'f'
  | .number _, c => c == '-' || c.isDigit
  | .text _, c => c == '"'
  | .list _, c => c == '['
  | .object _, c => c == '{'

/-- Neither a blank nor a closing bracket can stand at the start of a phrase. -/
theorem startsWith_eq_false (phrase : Phrase) {c : Char}
    (other : Cursor.isGap c = true ∨ c = ']') : phrase.startsWith c = false := by
  have none : ∀ first ∈ [' ', '\n', '\t', '\r', ']'], phrase.startsWith first = false := by
    cases phrase with
    | boolean value => cases value <;> simp [startsWith]
    | null | number | text | list | object => simp [startsWith]
  apply none
  rcases other with isGap | rfl
  · simp only [Cursor.isGap, Bool.or_eq_true, beq_iff_eq] at isGap
    rcases isGap with ((rfl | rfl) | rfl) | rfl <;> decide
  · decide

end Phrase

/-! ## What stands before and behind a phrase -/

section Surroundings

variable {phrase : Phrase} {chars : List Char}

theorem head_of_writes (written : Writes (.phrase phrase) chars) :
    ∃ c more, chars = c :: more ∧ phrase.startsWith c = true := by
  cases written with
  | null | yes | no | list | object => exact ⟨_, _, rfl, rfl⟩
  | text units => exact ⟨'"', units.flatMap TextUnit.chars ++ ['"'], rfl, rfl⟩
  | number numeral =>
      cases negative : numeral.isNegative with
      | true => exact ⟨'-', numeral.unsignedChars, by simp [Numeral.chars, negative], rfl⟩
      | false =>
          obtain ⟨c, more, digits, isDigit⟩ := numeral.whole.exists_cons
          refine ⟨c, more ++ (Numeral.fractionChars numeral.fraction ++
            Numeral.exponentChars numeral.exponent), ?_, by simp [Phrase.startsWith, isDigit]⟩
          simp [Numeral.chars, Numeral.unsignedChars, negative, digits]

theorem visible_head_of_writes (written : Writes (.phrase phrase) chars) :
    ∃ c more, chars = c :: more ∧ Cursor.isGap c = false ∧ c ≠ ']' := by
  obtain ⟨c, more, same, starts⟩ := head_of_writes written
  refine ⟨c, more, same, ?_, ?_⟩
  · cases isGap : Cursor.isGap c with
    | false => rfl
    | true => simp [phrase.startsWith_eq_false (.inl isGap)] at starts
  · rintro rfl
    simp [phrase.startsWith_eq_false (.inr rfl)] at starts

theorem startsVisibly_of_writes (written : Writes (.phrase phrase) chars) (rest : List Char) :
    StartsVisibly (chars ++ rest) := by
  obtain ⟨c, more, rfl, visible, -⟩ := visible_head_of_writes written
  simpa [StartsVisibly] using visible

theorem rest_skipGap_of_writes (written : Writes (.phrase phrase) chars) {cursor : Cursor}
    {gap rest : List Char} (isGap : IsGap gap) (left : cursor.rest = gap ++ (chars ++ rest)) :
    cursor.skipGap.rest = chars ++ rest :=
  Cursor.rest_skipGap_of_gap isGap (startsVisibly_of_writes written rest) left

/-- A phrase of one kind does not look like a phrase of another kind. -/
theorem head?_ne_of_writes (written : Writes (.phrase phrase) chars) {c : Char}
    (other : phrase.startsWith c = false) (rest : List Char) :
    (chars ++ rest).head? ≠ some c := by
  obtain ⟨first, more, rfl, starts⟩ := head_of_writes written
  intro isHead
  obtain rfl : first = c := by simpa using isHead
  simp [other] at starts

theorem stops_of_gap {gap rest : List Char} {c : Char} (isGap : IsGap gap)
    (isEnd : c = ',' ∨ c = ']' ∨ c = '}') : Stops (gap ++ c :: rest) := by
  intro first isHead
  cases gap with
  | nil =>
      obtain rfl : c = first := by simpa using isHead
      exact .inr isEnd
  | cons blank gap =>
      obtain rfl : blank = first := by simpa using isHead
      exact .inl (isGap blank (by simp))

theorem stops_of_items {items : List Phrase} {more : List Char}
    (written : Writes (.items false items) more) (rest : List Char) : Stops (more ++ rest) := by
  cases written with
  | noItem _ isGap => simpa using stops_of_gap isGap (.inr (.inl rfl))
  | item _ isGap => simpa [lead] using stops_of_gap isGap (.inl rfl)

theorem stops_of_members {members : List (List TextUnit × Phrase)} {more : List Char}
    (written : Writes (.members false members) more) (rest : List Char) : Stops (more ++ rest) := by
  cases written with
  | noMember _ isGap => simpa using stops_of_gap isGap (.inr (.inr rfl))
  | member _ _ isGap => simpa [lead] using stops_of_gap isGap (.inl rfl)

theorem length_pos_of_writes {part : Part} {chars : List Char} (written : Writes part chars) :
    0 < chars.length := by
  induction written with
  | null | yes | no | text | list | object | noItem | noMember => simp [TextUnit.quoted]
  | number numeral =>
      obtain ⟨c, more, digits, -⟩ := numeral.whole.exists_cons
      simp only [Numeral.chars, Numeral.unsignedChars, digits, List.length_append,
        List.length_cons]
      omega
  | item _ _ _ _ _ firstIH _ | member _ _ _ _ _ _ _ _ firstIH _ =>
      simp only [List.length_append, List.length_cons]
      omega

theorem exists_step_of_writes (fuel : Nat) {part : Part} {chars : List Char}
    (written : Writes part chars) (enough : chars.length ≤ fuel) :
    ∃ later, fuel = later + 1 := by
  have positive := length_pos_of_writes written
  exact Nat.exists_eq_succ_of_ne_zero (by omega)

end Surroundings

/-! ## Items and members -/

theorem nextItem?_of_writes (isFirst : Bool) {cursor : Cursor} {phrase : Phrase}
    {gap space chars rest : List Char} (isGap : IsGap gap) (isSpace : IsGap space)
    (written : Writes (.phrase phrase) chars)
    (left : cursor.rest = lead isFirst gap space ++ (chars ++ rest)) :
    ∃ after : Cursor, nextItem? isFirst cursor = .ok (some after) ∧
      after.rest = chars ++ rest := by
  obtain ⟨c, more, rfl, visible, notClosing⟩ := visible_head_of_writes written
  exact nextItem?_lead isFirst isGap isSpace visible notClosing left

theorem nextItem?_of_noItem {isFirst : Bool} {cursor : Cursor} {chars rest : List Char}
    (written : Writes (.items isFirst []) chars) (left : cursor.rest = chars ++ rest) :
    nextItem? isFirst cursor = .ok none ∧ (cursor.skipGap.skip 1).rest = rest := by
  cases written with
  | noItem _ isGap =>
      rw [List.append_assoc, List.singleton_append] at left
      have closing := Cursor.rest_skipGap_of_gap isGap (by simp [StartsVisibly, Cursor.isGap]) left
      exact ⟨nextItem?_closed isFirst isGap left, by simp [closing]⟩

theorem nextName?_of_noMember {isFirst : Bool} {cursor : Cursor} {chars rest : List Char}
    (written : Writes (.members isFirst []) chars) (left : cursor.rest = chars ++ rest) :
    nextName? isFirst cursor = .ok none ∧ (cursor.skipGap.skip 1).rest = rest := by
  cases written with
  | noMember _ isGap =>
      rw [List.append_assoc, List.singleton_append] at left
      have closing := Cursor.rest_skipGap_of_gap isGap (by simp [StartsVisibly, Cursor.isGap]) left
      exact ⟨nextName?_closed isFirst isGap left, by simp [closing]⟩

section Names

variable {isFirst : Bool} {cursor : Cursor} {units : List TextUnit} {gap space rest : List Char}

/-- The name of the next member is read if it stands for a text. -/
theorem nextName?_of_named {name : String} (isGap : IsGap gap) (isSpace : IsGap space)
    (left : cursor.rest = lead isFirst gap space ++ (TextUnit.quoted units ++ rest))
    (named : TextUnit.text? units = some name) :
    ∃ after : Cursor, nextName? isFirst cursor = .ok (some (name, after)) ∧
      after.rest = rest := by
  obtain ⟨start, next, found⟩ := nextName?_lead isFirst isGap isSpace left
  have finds : Finds _ (TextUnit.text? units) rest := TextUnit.readText_finds found
  rw [named] at finds
  obtain ⟨after, read, behind⟩ := finds
  exact ⟨after, by rw [next, read]; rfl, behind⟩

theorem nextName?_of_nameless (isGap : IsGap gap) (isSpace : IsGap space)
    (left : cursor.rest = lead isFirst gap space ++ (TextUnit.quoted units ++ rest))
    (nameless : TextUnit.text? units = none) :
    ∃ fault, nextName? isFirst cursor = .error fault := by
  obtain ⟨start, next, found⟩ := nextName?_lead isFirst isGap isSpace left
  have finds : Finds _ (TextUnit.text? units) rest := TextUnit.readText_finds found
  rw [nameless] at finds
  obtain ⟨fault, failed⟩ := finds
  exact ⟨fault, by rw [next, failed]; rfl⟩

end Names

/-! ## Values -/

/-- The reader for a kind of part finds its value at the start of a text and stops behind it, or it
fails because the part has none. -/
def Part.IsReadFrom (fuel depth : Nat) (chars rest : List Char) : Part → Prop
  | .phrase whole => ∀ cursor : Cursor, cursor.skipGap.rest = chars ++ rest →
      Finds (readValueWithin fuel depth cursor) (whole.value? depth) rest
  | .items isFirst all => ∀ cursor : Cursor, cursor.rest = chars ++ rest →
      Finds (readItems fuel depth isFirst cursor) (Phrase.values? depth all) rest
  | .members isFirst all => ∀ cursor : Cursor, cursor.rest = chars ++ rest →
      Finds (readMembers fuel depth isFirst cursor) (Phrase.memberValues? depth all) rest

section Parts

variable {fuel depth : Nat} {rest : List Char}

theorem readsNull : (Part.phrase .null).IsReadFrom (fuel + 1) depth ['n', 'u', 'l', 'l'] rest := by
  intro cursor found
  unfold readValueWithin
  simp only [found, List.cons_append, ↓reduceIte]
  exact (readWord_leaves ['u', 'l', 'l'] (by simp [found])).find fun _ left => .done left

theorem readsYes :
    (Part.phrase (.boolean true)).IsReadFrom (fuel + 1) depth ['t', 'r', 'u', 'e'] rest := by
  intro cursor found
  unfold readValueWithin
  simp only [found, List.cons_append, Char.reduceEq, ↓reduceIte]
  exact (readWord_leaves ['r', 'u', 'e'] (by simp [found])).find fun _ left => .done left

theorem readsNo :
    (Part.phrase (.boolean false)).IsReadFrom (fuel + 1) depth ['f', 'a', 'l', 's', 'e'] rest := by
  intro cursor found
  unfold readValueWithin
  simp only [found, List.cons_append, Char.reduceEq, ↓reduceIte]
  exact (readWord_leaves ['a', 'l', 's', 'e'] (by simp [found])).find fun _ left => .done left

theorem readsNumber (numeral : Numeral) (stops : Stops rest) :
    (Part.phrase (.number numeral)).IsReadFrom (fuel + 1) depth numeral.chars rest := by
  intro cursor found
  unfold readValueWithin
  cases negative : numeral.isNegative with
  | true =>
      have starts : cursor.skipGap.rest = '-' :: (numeral.unsignedChars ++ rest) := by
        simpa [Numeral.chars, negative] using found
      have behind : (cursor.skipGap.skip 1).rest = numeral.unsignedChars ++ rest := by
        simp [starts]
      have finds := numeral.readNumber_finds behind stops
      rw [negative] at finds
      simp only [starts, Char.reduceEq, ↓reduceIte]
      exact finds.map
  | false =>
      have starts : cursor.skipGap.rest = numeral.unsignedChars ++ rest := by
        simpa [Numeral.chars, negative] using found
      have finds := numeral.readNumber_finds starts stops
      rw [negative] at finds
      obtain ⟨c, more, digits, isDigit⟩ := numeral.whole.exists_cons
      have notWord : c ≠ 'n' ∧ c ≠ 't' ∧ c ≠ 'f' :=
        ⟨ne_of_isDigit isDigit rfl, ne_of_isDigit isDigit rfl, ne_of_isDigit isDigit rfl⟩
      have notMinus : c ≠ '-' := ne_of_isDigit isDigit rfl
      simp only [starts, Numeral.unsignedChars, digits, List.cons_append, notWord.1, notWord.2.1,
        notWord.2.2, notMinus, isDigit, ↓reduceIte]
      exact finds.map

theorem readsText (units : List TextUnit) :
    (Part.phrase (.text units)).IsReadFrom (fuel + 1) depth (TextUnit.quoted units) rest := by
  intro cursor found
  have starts := found
  simp only [TextUnit.quoted, List.cons_append] at starts
  unfold readValueWithin
  simp only [starts, Char.reduceEq, ↓reduceIte, show Char.isDigit '"' = false from rfl,
    Bool.false_eq_true]
  exact (TextUnit.readText_finds found).map

theorem readsList {items : List Phrase} {chars : List Char}
    (inside : ∀ {depth : Nat}, (Part.items true items).IsReadFrom fuel depth chars rest) :
    (Part.phrase (.list items)).IsReadFrom (fuel + 1) depth ('[' :: chars) rest := by
  intro cursor found
  unfold readValueWithin
  simp only [found, List.cons_append, Char.reduceEq, ↓reduceIte,
    show Char.isDigit '[' = false from rfl, Bool.false_eq_true]
  cases depth with
  | zero => exact ⟨_, rfl⟩
  | succ depth => exact (inside (cursor.skipGap.skip 1) (by simp [found])).map

theorem readsObject {members : List (List TextUnit × Phrase)} {chars : List Char}
    (inside : ∀ {depth : Nat}, (Part.members true members).IsReadFrom fuel depth chars rest) :
    (Part.phrase (.object members)).IsReadFrom (fuel + 1) depth ('{' :: chars) rest := by
  intro cursor found
  unfold readValueWithin
  simp only [found, List.cons_append, Char.reduceEq, ↓reduceIte,
    show Char.isDigit '{' = false from rfl, Bool.false_eq_true]
  cases depth with
  | zero => exact ⟨_, rfl⟩
  | succ depth => exact (inside (cursor.skipGap.skip 1) (by simp [found])).map

theorem readsNoItem (isFirst : Bool) {gap : List Char} (isGap : IsGap gap) :
    (Part.items isFirst []).IsReadFrom (fuel + 1) depth (gap ++ [']']) rest := by
  intro cursor found
  obtain ⟨closed, behind⟩ := nextItem?_of_noItem (.noItem isFirst isGap) found
  rw [readItems, closed]
  exact .done behind

theorem readsItem (isFirst : Bool) {item : Phrase} {items : List Phrase}
    {gap space chars more : List Char} (isGap : IsGap gap) (isSpace : IsGap space)
    (written : Writes (.phrase item) chars)
    (first : (Part.phrase item).IsReadFrom fuel depth chars (more ++ rest))
    (later : (Part.items false items).IsReadFrom fuel depth more rest) :
    (Part.items isFirst (item :: items)).IsReadFrom (fuel + 1) depth
      (lead isFirst gap space ++ (chars ++ more)) rest := by
  intro cursor found
  obtain ⟨start, next, left⟩ := nextItem?_of_writes isFirst isGap isSpace written
    (by simpa only [List.append_assoc] using found)
  have starts := rest_skipGap_of_writes written isGap_nil left
  rw [readItems, next, Phrase.values?]
  exact (first start starts).bind fun value middle _ behind => (later middle behind).map

theorem readsNoMember (isFirst : Bool) {gap : List Char} (isGap : IsGap gap) :
    (Part.members isFirst []).IsReadFrom (fuel + 1) depth (gap ++ ['}']) rest := by
  intro cursor found
  obtain ⟨closed, behind⟩ := nextName?_of_noMember (.noMember isFirst isGap) found
  rw [readMembers, closed]
  exact .done behind

theorem readsMember (isFirst : Bool) (units : List TextUnit) {phrase : Phrase}
    {members : List (List TextUnit × Phrase)} {gap space before behind chars more : List Char}
    (isGap : IsGap gap) (isSpace : IsGap space) (isBefore : IsGap before)
    (isBehind : IsGap behind) (written : Writes (.phrase phrase) chars)
    (first : (Part.phrase phrase).IsReadFrom fuel depth chars (more ++ rest))
    (later : (Part.members false members).IsReadFrom fuel depth more rest) :
    (Part.members isFirst ((units, phrase) :: members)).IsReadFrom (fuel + 1) depth
      (lead isFirst gap space ++
        (TextUnit.quoted units ++ (before ++ ':' :: (behind ++ (chars ++ more))))) rest := by
  intro cursor found
  simp only [List.append_assoc, List.cons_append] at found
  rw [readMembers, Phrase.memberValues?]
  cases named : TextUnit.text? units with
  | none =>
      obtain ⟨fault, failed⟩ := nextName?_of_nameless isGap isSpace found named
      exact ⟨fault, by rw [failed]; rfl⟩
  | some name =>
      obtain ⟨start, next, left⟩ := nextName?_of_named isGap isSpace found named
      rw [next]
      refine (readColon_leaves isBefore left).find fun colon behindColon => ?_
      have starts := rest_skipGap_of_writes written isBehind behindColon
      exact (first colon starts).bind fun value middle _ behind => (later middle behind).map

/-- Every written part is read as its value. Two steps for each character are enough. -/
theorem isReadFrom_of_writes {part : Part} {chars : List Char} (written : Writes part chars)
    (enough : 2 * chars.length ≤ fuel) (stops : Stops rest) :
    part.IsReadFrom fuel depth chars rest := by
  induction written generalizing fuel depth rest with
  | null =>
      obtain ⟨fuel, rfl⟩ := exists_step_of_writes fuel .null (by omega)
      exact readsNull
  | yes =>
      obtain ⟨fuel, rfl⟩ := exists_step_of_writes fuel .yes (by omega)
      exact readsYes
  | no =>
      obtain ⟨fuel, rfl⟩ := exists_step_of_writes fuel .no (by omega)
      exact readsNo
  | number numeral =>
      obtain ⟨fuel, rfl⟩ := exists_step_of_writes fuel (.number numeral) (by omega)
      exact readsNumber numeral stops
  | text units =>
      obtain ⟨fuel, rfl⟩ := exists_step_of_writes fuel (.text units) (by omega)
      exact readsText units
  | list inside ih =>
      obtain ⟨fuel, rfl⟩ := exists_step_of_writes fuel (.list inside) (by omega)
      simp only [List.length_cons] at enough
      exact readsList (ih (by omega) stops)
  | object inside ih =>
      obtain ⟨fuel, rfl⟩ := exists_step_of_writes fuel (.object inside) (by omega)
      simp only [List.length_cons] at enough
      exact readsObject (ih (by omega) stops)
  | noItem isFirst isGap =>
      obtain ⟨fuel, rfl⟩ := exists_step_of_writes fuel (.noItem isFirst isGap) (by omega)
      exact readsNoItem isFirst isGap
  | item isFirst isGap isSpace first later firstIH laterIH =>
      obtain ⟨fuel, rfl⟩ :=
        exists_step_of_writes fuel (.item isFirst isGap isSpace first later) (by omega)
      have firstPositive := length_pos_of_writes first
      have laterPositive := length_pos_of_writes later
      simp only [List.length_append] at enough
      exact readsItem isFirst isGap isSpace first
        (firstIH (by omega) (stops_of_items later rest)) (laterIH (by omega) stops)
  | noMember isFirst isGap =>
      obtain ⟨fuel, rfl⟩ := exists_step_of_writes fuel (.noMember isFirst isGap) (by omega)
      exact readsNoMember isFirst isGap
  | member isFirst name isGap isSpace isBefore isBehind first later firstIH laterIH =>
      obtain ⟨fuel, rfl⟩ := exists_step_of_writes fuel
        (.member isFirst name isGap isSpace isBefore isBehind first later) (by omega)
      simp only [List.length_append, List.length_cons] at enough
      exact readsMember isFirst name isGap isSpace isBefore isBehind first
        (firstIH (by omega) (stops_of_members later rest)) (laterIH (by omega) stops)

/-- A written phrase is read as its value, whatever follows it. -/
theorem readValue_of_writes {phrase : Phrase} {chars : List Char}
    (written : Writes (.phrase phrase) chars) (stops : Stops rest) {cursor : Cursor}
    {gap : List Char} (isGap : IsGap gap) (left : cursor.rest = gap ++ (chars ++ rest)) :
    Finds (readValue depth cursor) (phrase.value? depth) rest := by
  have enough : 2 * chars.length ≤ stepsFor cursor := by
    simp [stepsFor, left]
    omega
  exact isReadFrom_of_writes written enough stops cursor (rest_skipGap_of_writes written isGap left)

end Parts

end Polyview.Json
