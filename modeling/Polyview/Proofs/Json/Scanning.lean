import Polyview.Proofs.Json.Phrase
import Polyview.Proofs.Json.Reading

/-!
# Reading texts and numbers as they are written

A reader that starts at a written text or number finds what it means and stops directly behind it.
If it means nothing, the reader fails. A reader that passes over it stops behind it in any case.
-/

namespace Polyview.Json

/-- A reader finds a value and stops where `rest` is left. If there is none to be found it fails. -/
def Finds {α ε : Type} (result : Except ε (α × Cursor)) (found : Option α) (rest : List Char) :
    Prop :=
  match found with
  | some value => Yields result value rest
  | none => ∃ fault, result = .error fault

section Sequence

variable {α β ε : Type} {result : Except ε (α × Cursor)} {found : Option α}
  {middle rest : List Char}

theorem Finds.bind {next : α × Cursor → Except ε (β × Cursor)} {later : α → Option β}
    (finds : Finds result found middle)
    (onward : ∀ (value : α) (cursor : Cursor), found = some value → cursor.rest = middle →
      Finds (next (value, cursor)) (later value) rest) :
    Finds (result >>= next) (found.bind later) rest := by
  cases found with
  | none =>
      obtain ⟨fault, failed⟩ := finds
      exact ⟨fault, by rw [failed]; rfl⟩
  | some value =>
      obtain ⟨cursor, read, left⟩ := finds
      rw [read]
      exact onward value cursor rfl left

theorem Finds.done {value : α} {cursor : Cursor} (left : cursor.rest = rest) :
    Finds (pure (value, cursor) : Except ε (α × Cursor)) (some value) rest :=
  ⟨cursor, rfl, left⟩

/-- A result that is put into a larger one. -/
theorem Finds.map {image : α → β} (finds : Finds result found rest) :
    Finds (result >>= fun read => pure (image read.1, read.2)) (found.map image) rest := by
  rw [Option.map_eq_bind]
  exact finds.bind fun _ _ _ left => .done left

theorem Leaves.find {result : Except ε Cursor} {next : Cursor → Except ε (α × Cursor)}
    (leaves : Leaves result middle)
    (onward : ∀ cursor : Cursor, cursor.rest = middle → Finds (next cursor) found rest) :
    Finds (result >>= next) found rest := by
  obtain ⟨cursor, passed, left⟩ := leaves
  rw [passed]
  exact onward cursor left

end Sequence

/-! ## Texts -/

namespace TextUnit

theorem mark_ne_u {mark meaning : Char} (isShort : shortEscape? mark = some meaning) :
    mark ≠ 'u' := by
  rintro rfl
  have unmarked : shortEscape? 'u' = none := by decide
  rw [unmarked] at isShort
  cases isShort

theorem readTextFrom_pair (known : List Char) (position : Position) {a b c d e f g h : Char}
    {unit low : Nat} (rest : List Char) (isUnit : codeUnit? a b c d = some unit)
    (isOther : codeUnit? e f g h = some low) (notLow : isLowSurrogate unit = false)
    (isHigh : isHighSurrogate unit = true) (isLow : isLowSurrogate low = true) :
    readTextFrom known position
        ('\\' :: 'u' :: a :: b :: c :: d :: '\\' :: 'u' :: e :: f :: g :: h :: rest) =
      readTextFrom (pairedChar unit low :: known) (position.forward 12) rest := by
  rw [readTextFrom.eq_def]
  simp [isUnit, isOther, notLow, isHigh, isLow]

/-- A high surrogate is a fault if what follows it does not begin with a low one. -/
theorem readTextFrom_lone (known : List Char) (position : Position) {a b c d : Char} {unit : Nat}
    (isUnit : codeUnit? a b c d = some unit) (notLow : isLowSurrogate unit = false)
    (isHigh : isHighSurrogate unit = true) (units : List TextUnit) (rest : List Char)
    (lone : ∀ e f g h low isCode later, units = .code e f g h low isCode :: later →
      isLowSurrogate low = false) :
    ∃ fault, readTextFrom known position
      ('\\' :: 'u' :: a :: b :: c :: d :: (units.flatMap chars ++ '"' :: rest)) =
        .error fault := by
  rw [readTextFrom.eq_def]
  cases units with
  | nil => simp [isUnit, notLow, isHigh]
  | cons next later =>
      cases next with
      | plain c isPlain => simp [chars, isUnit, notLow, isHigh, isPlain.2.1]
      | short mark meaning isShort =>
          simp [chars, isUnit, notLow, isHigh, mark_ne_u isShort]
      | code e f g h low isCode =>
          have notPaired := lone e f g h low isCode later rfl
          simp [chars, isUnit, isCode, notLow, isHigh, notPaired]

/-- Between its quotes a text is read as what its units stand for. -/
theorem readTextFrom_finds (units : List TextUnit) (known : List Char) (position : Position)
    (rest : List Char) :
    Finds (readTextFrom known position (units.flatMap chars ++ '"' :: rest))
      ((meaning? units).map fun text => String.ofList (known.reverse ++ text)) rest := by
  fun_induction meaning? units generalizing known position with
  | case1 => exact ⟨_, by simpa using readTextFrom_quote known position rest, rfl⟩
  | case2 c isPlain units ih =>
      have later := ih (c :: known) (position.after c)
      rw [List.flatMap_cons, chars, List.singleton_append, List.cons_append,
        readTextFrom_plain known position _ isPlain.1 isPlain.2.1 (by omega)]
      simpa [Option.map_map, Function.comp_def] using later
  | case3 mark c isShort units ih =>
      have later := ih (c :: known) (position.forward 2)
      rw [List.flatMap_cons, chars, List.cons_append, List.singleton_append, List.cons_append,
        List.cons_append, readTextFrom_shortEscape known position _ (mark_ne_u isShort) isShort]
      simpa [Option.map_map, Function.comp_def] using later
  | case4 a b c d unit isCode units isLow =>
      refine ⟨⟨.loneSurrogate, position.forward 6⟩, ?_⟩
      rw [readTextFrom.eq_def]
      simp [chars, isCode, isLow]
  | case5 a b c d unit isCode notLow isHigh e f g h low isOther units isLow ih =>
      have later := ih (pairedChar unit low :: known) (position.forward 12)
      rw [Bool.not_eq_true] at notLow
      simp only [List.flatMap_cons, chars, List.cons_append, List.nil_append]
      rw [readTextFrom_pair known position _ isCode isOther notLow isHigh isLow]
      simpa [Option.map_map, Function.comp_def] using later
  | case6 a b c d unit isCode notLow isHigh e f g h low isOther units notPaired =>
      rw [Bool.not_eq_true] at notLow notPaired
      refine readTextFrom_lone known position isCode notLow isHigh
        (.code e f g h low isOther :: units) rest ?_
      rintro _ _ _ _ _ _ _ ⟨⟩
      exact notPaired
  | case7 a b c d unit isCode units notLow isHigh other =>
      rw [Bool.not_eq_true] at notLow
      refine readTextFrom_lone known position isCode notLow isHigh units rest ?_
      intro e f g h low isOther later same
      exact absurd same (other e f g h low isOther later)
  | case8 a b c d unit isCode units notLow notHigh ih =>
      rw [Bool.not_eq_true] at notLow notHigh
      have later := ih (Char.ofNat unit :: known) (position.forward 6)
      simp only [List.flatMap_cons, chars, List.cons_append, List.nil_append]
      rw [readTextFrom_codeUnit known position _ isCode notLow notHigh]
      simpa [Option.map_map, Function.comp_def] using later

theorem readText_finds {units : List TextUnit} {cursor : Cursor} {rest : List Char}
    (left : cursor.rest = quoted units ++ rest) :
    Finds (readText (cursor.skip 1)) (text? units) rest := by
  have within : (cursor.skip 1).rest = units.flatMap chars ++ '"' :: rest := by
    simp [left, quoted]
  rw [readText, within]
  exact readTextFrom_finds units [] (cursor.skip 1).position rest

theorem skipTextFrom_leaves (units : List TextUnit) (position : Position) (rest : List Char) :
    Leaves (skipTextFrom position (units.flatMap chars ++ '"' :: rest)) rest := by
  induction units generalizing position with
  | nil =>
      refine ⟨⟨rest, position.forward 1⟩, ?_, rfl⟩
      rw [skipTextFrom.eq_def]
      simp
  | cons unit units ih =>
      rw [skipTextFrom.eq_def]
      cases unit with
      | plain c isPlain =>
          have notControl : ¬ c.toNat < 0x20 := Nat.not_lt.mpr isPlain.2.2
          simpa [chars, isPlain.1, isPlain.2.1, notControl] using ih (position.after c)
      | short mark meaning isShort =>
          simpa [chars, mark_ne_u isShort, isShort] using ih (position.forward 2)
      | code a b c d unit isCode => simpa [chars, isCode] using ih (position.forward 6)

theorem skipText_leaves {units : List TextUnit} {cursor : Cursor} {rest : List Char}
    (left : cursor.rest = quoted units ++ rest) : Leaves (skipText (cursor.skip 1)) rest := by
  have within : (cursor.skip 1).rest = units.flatMap chars ++ '"' :: rest := by
    simp [left, quoted]
  rw [skipText, within]
  exact skipTextFrom_leaves units (cursor.skip 1).position rest

end TextUnit

/-! ## Numbers -/

/-- What can follow a value: nothing, a blank, a comma or a closing bracket. -/
def Stops (rest : List Char) : Prop :=
  ∀ c ∈ rest.head?, Cursor.isGap c = true ∨ c = ',' ∨ c = ']' ∨ c = '}'

theorem ne_of_isDigit {c other : Char} (isDigit : c.isDigit = true)
    (noDigit : other.isDigit = false) : c ≠ other := by
  rintro rfl
  rw [isDigit] at noDigit
  cases noDigit

/-- No digit stands at the start of a text. -/
def EndsDigits (rest : List Char) : Prop := ∀ c ∈ rest.head?, c.isDigit = false

theorem Stops.endsDigits {rest : List Char} (stops : Stops rest) : EndsDigits rest := by
  intro c isHead
  rcases stops c isHead with isGap | rfl | rfl | rfl
  · simp only [Cursor.isGap, Bool.or_eq_true, beq_iff_eq] at isGap
    rcases isGap with ((rfl | rfl) | rfl) | rfl <;> rfl
  all_goals rfl

theorem Stops.head?_ne {rest : List Char} (stops : Stops rest) {c : Char}
    (inNumber : c = '.' ∨ c = 'e' ∨ c = 'E') : rest.head? ≠ some c := by
  intro isHead
  have stopsHere := stops c isHead
  rcases inNumber with rfl | rfl | rfl <;> revert stopsHere <;> decide

theorem digitsAt_eq {digits : Digits} {cursor : Cursor} {rest : List Char}
    (left : cursor.rest = digits.chars ++ rest) (ends : EndsDigits rest) :
    digitsAt cursor = digits.chars := by
  rw [digitsAt, left, List.takeWhile_append_of_pos digits.areDigits]
  cases rest with
  | nil => simp
  | cons c more => simp [ends c (by simp)]

theorem Digits.exists_cons (digits : Digits) :
    ∃ c more, digits.chars = c :: more ∧ c.isDigit = true := by
  cases chars : digits.chars with
  | nil => exact absurd chars digits.nonempty
  | cons c more => exact ⟨c, more, rfl, digits.areDigits c (by simp [chars])⟩

section Numbers

open Numeral

variable (isNegative : Bool) (magnitude : Magnitude)

/-- A magnitude with its sign, if it is in range. -/
def floatValue? : Option Number :=
  magnitude.toFloat?.map fun value => .floating (if isNegative then -value else value)

theorem floatOf_finds {cursor : Cursor} {rest : List Char} (left : cursor.rest = rest) :
    Finds (floatOf isNegative magnitude cursor) (floatValue? isNegative magnitude) rest := by
  unfold floatOf floatValue?
  cases magnitude.toFloat? with
  | none => exact ⟨_, rfl⟩
  | some value => exact ⟨cursor, rfl, left⟩

/-- The sign of an exponent is told from the character behind the letter. -/
theorem rest_afterSign {exponent : Exponent} {cursor : Cursor} {rest : List Char}
    (left : cursor.rest = exponent.sign.chars ++ (exponent.digits.chars ++ rest)) :
    (cursor.rest.head? == some '-') = decide (exponent.sign = .minus) ∧
      (if (cursor.rest.head? == some '-') || (cursor.rest.head? == some '+') then cursor.skip 1
        else cursor).rest = exponent.digits.chars ++ rest := by
  obtain ⟨c, more, chars, isDigit⟩ := exponent.digits.exists_cons
  cases signIs : exponent.sign with
  | none =>
      have notMinus : c ≠ '-' := ne_of_isDigit isDigit rfl
      have notPlus : c ≠ '+' := ne_of_isDigit isDigit rfl
      simp [left, signIs, Sign.chars, chars, notMinus, notPlus]
  | plus => simp [left, signIs, Sign.chars, chars]
  | minus => simp [left, signIs, Sign.chars, chars]

theorem exists_readExponent (exponent : Exponent) :
    ∃ found, ∀ (cursor : Cursor) (rest : List Char),
      cursor.rest = exponent.sign.chars ++ (exponent.digits.chars ++ rest) → EndsDigits rest →
        Finds (readExponent isNegative magnitude cursor) found rest := by
  let digits := exponent.digits.chars
  let lowers := decide (exponent.sign = .minus)
  let power : Int := decimalValue digits
  let moved : Magnitude := ⟨magnitude.significand,
    if lowers then magnitude.exponent - power else magnitude.exponent + power, magnitude.full⟩
  refine ⟨if fittingDigits 0 digits < digits.length then
      if magnitude.significand ≠ 0 ∧ !lowers then none
      else some (.floating (if isNegative then -0.0 else 0.0))
    else floatValue? isNegative moved, ?_⟩
  intro cursor rest left ends
  obtain ⟨sign, signed⟩ := rest_afterSign left
  unfold readExponent
  dsimp only
  rw [sign] at signed ⊢
  generalize (if decide (exponent.sign = .minus) || cursor.rest.head? == some '+' then
    cursor.skip 1 else cursor) = start at signed ⊢
  obtain ⟨c, more, chars, -⟩ := exponent.digits.exists_cons
  have nonempty : digits.isEmpty = false := by simp [digits, chars]
  have notEnded : (exponent.digits.chars ++ rest).isEmpty = false := by simp [chars]
  have behind : (start.skip digits.length).rest = rest := by simp [signed, digits]
  rw [digitsAt_eq signed ends, signed, notEnded, nonempty, if_neg Bool.false_ne_true,
    if_neg Bool.false_ne_true]
  by_cases fits : fittingDigits 0 digits < digits.length
  · rw [if_pos fits, if_pos fits]
    by_cases outOfRange : magnitude.significand ≠ 0 ∧ !lowers
    · rw [if_pos outOfRange, if_pos outOfRange]
      exact ⟨_, rfl⟩
    · rw [if_neg outOfRange, if_neg outOfRange]
      exact ⟨_, rfl, behind⟩
  · rw [if_neg fits, if_neg fits]
    exact floatOf_finds isNegative moved behind

theorem endsDigits_exponentChars {exponent : Option Exponent} {rest : List Char}
    (stops : Stops rest) : EndsDigits (exponentChars exponent ++ rest) := by
  cases exponent with
  | none => exact stops.endsDigits
  | some exponent =>
      cases capital : exponent.isCapital <;>
        simp [EndsDigits, exponentChars, Exponent.chars, capital]

theorem head?_exponentChars_ne {exponent : Option Exponent} {rest : List Char}
    (stops : Stops rest) : (exponentChars exponent ++ rest).head? ≠ some '.' := by
  cases exponent with
  | none => exact stops.head?_ne (by simp)
  | some exponent =>
      cases capital : exponent.isCapital <;> simp [exponentChars, Exponent.chars, capital]

theorem letter_of_exponent {exponent : Exponent} {cursor : Cursor} {rest : List Char}
    (left : cursor.rest = exponent.chars ++ rest) :
    (cursor.rest.head? = some 'e' ∨ cursor.rest.head? = some 'E') ∧
      (cursor.skip 1).rest = exponent.sign.chars ++ (exponent.digits.chars ++ rest) := by
  cases capital : exponent.isCapital <;> simp [left, Exponent.chars, capital]

theorem exists_readFraction (digits : Digits) (exponent : Option Exponent) :
    ∃ found, ∀ (cursor : Cursor) (rest : List Char),
      cursor.rest = digits.chars ++ (exponentChars exponent ++ rest) → Stops rest →
        Finds (readFraction isNegative magnitude cursor) found rest := by
  let counted := digits.chars.foldl Magnitude.withFraction { magnitude with full := false }
  obtain ⟨c, more, chars, -⟩ := digits.exists_cons
  have nonempty : digits.chars.isEmpty = false := by simp [chars]
  cases exponent with
  | none =>
      refine ⟨floatValue? isNegative counted, fun cursor rest left stops => ?_⟩
      have behind : (cursor.skip digits.chars.length).rest = rest := by simp [left, exponentChars]
      unfold readFraction
      dsimp only
      rw [digitsAt_eq left (endsDigits_exponentChars stops), nonempty, if_neg Bool.false_ne_true,
        behind, if_neg (not_or.mpr ⟨stops.head?_ne (by simp), stops.head?_ne (by simp)⟩)]
      exact floatOf_finds isNegative counted behind
  | some exponent =>
      obtain ⟨found, reads⟩ := exists_readExponent isNegative counted exponent
      refine ⟨found, fun cursor rest left stops => ?_⟩
      have behind : (cursor.skip digits.chars.length).rest = exponent.chars ++ rest := by
        simp [left, exponentChars]
      obtain ⟨letter, beyond⟩ := letter_of_exponent behind
      unfold readFraction
      dsimp only
      rw [digitsAt_eq left (endsDigits_exponentChars stops), nonempty, if_neg Bool.false_ne_true,
        if_pos letter]
      exact reads _ rest beyond stops.endsDigits

theorem exists_readAfterWhole (fraction : Option Digits) (exponent : Option Exponent) :
    ∃ found, ∀ (cursor : Cursor) (rest : List Char),
      cursor.rest = fractionChars fraction ++ (exponentChars exponent ++ rest) → Stops rest →
        Finds (readAfterWhole isNegative magnitude cursor) found rest := by
  cases fraction with
  | some digits =>
      obtain ⟨found, reads⟩ := exists_readFraction isNegative magnitude digits exponent
      refine ⟨found, fun cursor rest left stops => ?_⟩
      have point : cursor.rest.head? = some '.' := by simp [left, fractionChars]
      rw [readAfterWhole, if_pos point]
      exact reads _ rest (by simp [left, fractionChars]) stops
  | none =>
      cases exponent with
      | some exponent =>
          obtain ⟨found, reads⟩ := exists_readExponent isNegative magnitude exponent
          refine ⟨found, fun cursor rest left stops => ?_⟩
          obtain ⟨letter, beyond⟩ := letter_of_exponent left
          have noPoint : cursor.rest.head? ≠ some '.' := by
            rw [left]
            exact head?_exponentChars_ne stops
          rw [readAfterWhole, if_neg noPoint, if_pos letter]
          exact reads _ rest beyond stops.endsDigits
      | none =>
          refine ⟨if magnitude.full then floatValue? isNegative magnitude
            else if !isNegative then some (.natural magnitude.significand)
            else if magnitude.significand = 0 ∨ Nat.pow 2 63 < magnitude.significand then
              floatValue? isNegative magnitude
            else some (.negative magnitude.significand), fun cursor rest left stops => ?_⟩
          have ended : cursor.rest = rest := left
          rw [readAfterWhole, ended, if_neg (stops.head?_ne (by simp)),
            if_neg (not_or.mpr ⟨stops.head?_ne (by simp), stops.head?_ne (by simp)⟩)]
          split_ifs with full isNatural large
          · exact floatOf_finds isNegative magnitude ended
          · exact ⟨_, rfl, ended⟩
          · exact floatOf_finds isNegative magnitude ended
          · exact ⟨_, rfl, ended⟩

end Numbers

namespace Numeral

variable (numeral : Numeral)

theorem endsDigits_behindWhole {rest : List Char} (stops : Stops rest) :
    EndsDigits (fractionChars numeral.fraction ++ (exponentChars numeral.exponent ++ rest)) := by
  cases numeral.fraction with
  | none => exact endsDigits_exponentChars stops
  | some digits => simp [EndsDigits, fractionChars]

theorem digitsAt_whole {cursor : Cursor} {rest : List Char}
    (left : cursor.rest = numeral.unsignedChars ++ rest) (stops : Stops rest) :
    digitsAt cursor = numeral.whole.chars ∧
      (cursor.skip numeral.whole.chars.length).rest =
        fractionChars numeral.fraction ++ (exponentChars numeral.exponent ++ rest) := by
  rw [unsignedChars, List.append_assoc, List.append_assoc] at left
  refine ⟨digitsAt_eq left (numeral.endsDigits_behindWhole stops), ?_⟩
  simp [left]

theorem exists_readNumber : ∃ found, ∀ (cursor : Cursor) (rest : List Char),
    cursor.rest = numeral.unsignedChars ++ rest → Stops rest →
      Finds (readNumber numeral.isNegative cursor) found rest := by
  obtain ⟨found, reads⟩ := exists_readAfterWhole numeral.isNegative
    (numeral.whole.chars.foldl Magnitude.withWhole ⟨0, 0, false⟩) numeral.fraction
    numeral.exponent
  refine ⟨found, fun cursor rest left stops => ?_⟩
  obtain ⟨digits, behind⟩ := numeral.digitsAt_whole left stops
  unfold readNumber
  dsimp only
  rw [digits]
  split
  next isNil => exact absurd isNil numeral.whole.nonempty
  next isZero => exact absurd isZero (numeral.noLeadingZero _ _)
  next => exact reads _ rest behind stops

/-- What a number is read as when it stands alone. -/
def value? : Option Number :=
  match readNumber numeral.isNegative (.ofText numeral.unsignedChars) with
  | .ok (number, _) => some number
  | .error _ => none

/-- A number is read alike wherever it stands. -/
theorem readNumber_finds {cursor : Cursor} {rest : List Char}
    (left : cursor.rest = numeral.unsignedChars ++ rest) (stops : Stops rest) :
    Finds (readNumber numeral.isNegative cursor) numeral.value? rest := by
  obtain ⟨found, reads⟩ := numeral.exists_readNumber
  have alone := reads (.ofText numeral.unsignedChars) [] (by simp [Cursor.ofText])
    (by simp [Stops])
  have same : numeral.value? = found := by
    unfold value?
    cases found with
    | none =>
        obtain ⟨fault, failed⟩ := alone
        rw [failed]
    | some number =>
        obtain ⟨after, read, -⟩ := alone
        rw [read]
  rw [same]
  exact reads cursor rest left stops

theorem skipExponent_leaves {exponent : Exponent} {cursor : Cursor} {rest : List Char}
    (left : cursor.rest = exponent.sign.chars ++ (exponent.digits.chars ++ rest))
    (ends : EndsDigits rest) : Leaves (skipExponent cursor) rest := by
  obtain ⟨-, signed⟩ := rest_afterSign left
  obtain ⟨c, more, chars, -⟩ := exponent.digits.exists_cons
  have nonempty : exponent.digits.chars.isEmpty = false := by simp [chars]
  unfold skipExponent
  dsimp only
  rw [digitsAt_eq signed ends, nonempty, if_neg Bool.false_ne_true]
  exact ⟨_, rfl, by rw [Cursor.rest_skip, signed, List.drop_left]⟩

/-- Behind the digits that are not needed either a letter and an exponent follow or nothing. -/
theorem skipRest_leaves (exponent : Option Exponent) {cursor : Cursor} {rest : List Char}
    (left : cursor.rest = exponentChars exponent ++ rest) (stops : Stops rest) :
    Leaves (if cursor.rest.head? = some 'e' ∨ cursor.rest.head? = some 'E' then
      skipExponent (cursor.skip 1) else .ok cursor) rest := by
  cases exponent with
  | none =>
      have ended : cursor.rest = rest := left
      rw [ended, if_neg (not_or.mpr ⟨stops.head?_ne (by simp), stops.head?_ne (by simp)⟩)]
      exact ⟨cursor, rfl, ended⟩
  | some exponent =>
      obtain ⟨letter, beyond⟩ := letter_of_exponent left
      rw [if_pos letter]
      exact skipExponent_leaves beyond stops.endsDigits

theorem skipNumber_leaves {cursor : Cursor} {rest : List Char}
    (left : cursor.rest = numeral.unsignedChars ++ rest) (stops : Stops rest) :
    Leaves (skipNumber cursor) rest := by
  obtain ⟨digits, behind⟩ := numeral.digitsAt_whole left stops
  unfold skipNumber
  dsimp only
  rw [digits]
  split
  next isNil => exact absurd isNil numeral.whole.nonempty
  next isZero => exact absurd isZero (numeral.noLeadingZero _ _)
  next =>
    cases fraction : numeral.fraction with
    | none =>
        rw [fraction] at behind
        have noPoint : (cursor.skip numeral.whole.chars.length).rest.head? ≠ some '.' := by
          rw [behind]
          exact head?_exponentChars_ne stops
        rw [if_neg noPoint]
        exact skipRest_leaves numeral.exponent behind stops
    | some digits =>
        rw [fraction] at behind
        have point : (cursor.skip numeral.whole.chars.length).rest.head? = some '.' := by
          rw [behind]
          rfl
        have within : ((cursor.skip numeral.whole.chars.length).skip 1).rest =
            digits.chars ++ (exponentChars numeral.exponent ++ rest) := by
          rw [Cursor.rest_skip, behind]
          rfl
        obtain ⟨c, more, chars, -⟩ := digits.exists_cons
        have nonempty : digits.chars.isEmpty = false := by simp [chars]
        rw [if_pos point, digitsAt_eq within (endsDigits_exponentChars stops), nonempty,
          if_neg Bool.false_ne_true]
        exact skipRest_leaves numeral.exponent (by rw [Cursor.rest_skip, within, List.drop_left])
          stops

end Numeral

end Polyview.Json
