import Polyview.Proofs.Json.Evaluation

/-!
# Passing over phrases

A value that nobody needs is passed over, whatever it is: neither the range of its numbers nor its
surrogates nor its nesting matter. What is open is kept in a list of frames, so passing over a part
leads from one state of that list to another one, in at most two steps for each character.
-/

namespace Polyview.Json

/-- Passing over something leads on behind an item, with `rest` left, in fewer steps than `cost`. -/
def LeadsOn (result : Except Fault Cursor) (fuel cost : Nat) (frames : List Frame)
    (rest : List Char) : Prop :=
  ∃ (later : Nat) (after : Cursor), fuel < later + cost ∧ after.rest = rest ∧
    result = skipOnward later true frames after

/-- How the parts are passed over. -/
def Part.IsPassed (chars rest : List Char) : Part → Prop
  | .phrase _ => ∀ (fuel : Nat) (frames : List Frame) (cursor : Cursor),
      2 * chars.length ≤ fuel → cursor.skipGap.rest = chars ++ rest →
        LeadsOn (skipValueIn fuel frames cursor) fuel (2 * chars.length) frames rest
  | .items isFirst _ => ∀ (fuel : Nat) (frames : List Frame) (cursor : Cursor),
      2 * chars.length ≤ fuel → cursor.rest = chars ++ rest →
        LeadsOn (skipOnward fuel (!isFirst) (.list :: frames) cursor) fuel (2 * chars.length)
          frames rest
  | .members isFirst _ => ∀ (fuel : Nat) (frames : List Frame) (cursor : Cursor),
      2 * chars.length ≤ fuel → cursor.rest = chars ++ rest →
        LeadsOn (skipOnward fuel (!isFirst) (.object :: frames) cursor) fuel (2 * chars.length)
          frames rest

/-- One step more leads to an item and over what follows it. -/
theorem LeadsOn.trans {result : Except Fault Cursor} {fuel cost more total : Nat}
    {frames outer : List Frame} {middle rest : List Char}
    (leads : LeadsOn result fuel cost frames middle)
    (onward : ∀ (later : Nat) (after : Cursor), fuel < later + cost → after.rest = middle →
      LeadsOn (skipOnward later true frames after) later more outer rest)
    (within : cost + more ≤ total) : LeadsOn result (fuel + 1) total outer rest := by
  obtain ⟨later, after, enough, left, same⟩ := leads
  obtain ⟨last, final, enoughLater, behind, sameLater⟩ := onward later after enough left
  exact ⟨last, final, by omega, behind, same.trans sameLater⟩

section Parts

variable {rest : List Char}

/-- A word, a number or a text is passed over in one step. -/
theorem isPassed_scalar {phrase : Phrase} {chars : List Char}
    (written : Writes (.phrase phrase) chars)
    (isScalar : phrase.startsWith '[' = false ∧ phrase.startsWith '{' = false)
    (scalar : ∀ (c : Char) (more : List Char) (cursor : Cursor), chars = c :: more →
      cursor.rest = chars ++ rest → Leaves (skipScalar c cursor) rest) :
    (Part.phrase phrase).IsPassed chars rest := by
  intro fuel frames cursor enough found
  obtain ⟨fuel, rfl⟩ := exists_step_of_writes fuel written (by omega)
  obtain ⟨c, more, rfl, starts⟩ := head_of_writes written
  have notList : c ≠ '[' := by
    rintro rfl
    simp [isScalar.1] at starts
  have notObject : c ≠ '{' := by
    rintro rfl
    simp [isScalar.2] at starts
  obtain ⟨after, passed, left⟩ := scalar c more cursor.skipGap rfl found
  refine ⟨fuel, after, by simp only [List.length_cons]; omega, left, ?_⟩
  rw [skipValueIn]
  simp only [found, List.cons_append, notList, notObject, ↓reduceIte, passed]
  rfl

theorem isPassed_word {phrase : Phrase} {c : Char} {word : List Char}
    (written : Writes (.phrase phrase) (c :: word))
    (isScalar : phrase.startsWith '[' = false ∧ phrase.startsWith '{' = false)
    (isWord : ∀ cursor, skipScalar c cursor = readWord word (cursor.skip 1)) :
    (Part.phrase phrase).IsPassed (c :: word) rest := by
  refine isPassed_scalar written isScalar fun first more cursor chars found => ?_
  obtain ⟨rfl, -⟩ := List.cons.inj chars
  rw [isWord]
  exact readWord_leaves word (by simp [found])

theorem isPassed_number (numeral : Numeral) (stops : Stops rest) :
    (Part.phrase (.number numeral)).IsPassed numeral.chars rest := by
  refine isPassed_scalar (.number numeral) ⟨rfl, rfl⟩ fun c more cursor chars found => ?_
  unfold skipScalar
  cases negative : numeral.isNegative with
  | true =>
      have starts : numeral.chars = '-' :: numeral.unsignedChars := by
        simp [Numeral.chars, negative]
      obtain rfl : c = '-' := by
        rw [chars] at starts
        exact (List.cons.inj starts).1
      simp only [Char.reduceEq, ↓reduceIte]
      exact numeral.skipNumber_leaves (by simp [found, starts]) stops
  | false =>
      have starts : numeral.chars = numeral.unsignedChars := by simp [Numeral.chars, negative]
      obtain ⟨first, others, digits, isDigit⟩ := numeral.whole.exists_cons
      obtain rfl : c = first := by
        rw [chars, Numeral.unsignedChars, digits] at starts
        exact (List.cons.inj starts).1
      have notWord : c ≠ 'n' ∧ c ≠ 't' ∧ c ≠ 'f' :=
        ⟨ne_of_isDigit isDigit rfl, ne_of_isDigit isDigit rfl, ne_of_isDigit isDigit rfl⟩
      have notMinus : c ≠ '-' := ne_of_isDigit isDigit rfl
      simp only [notWord.1, notWord.2.1, notWord.2.2, notMinus, isDigit, ↓reduceIte]
      exact numeral.skipNumber_leaves (by rw [found, starts]) stops

theorem isPassed_text (units : List TextUnit) :
    (Part.phrase (.text units)).IsPassed (TextUnit.quoted units) rest := by
  refine isPassed_scalar (.text units) ⟨rfl, rfl⟩ fun c more cursor chars found => ?_
  obtain rfl : '"' = c := (List.cons.inj chars).1
  unfold skipScalar
  simp only [Char.reduceEq, ↓reduceIte, show Char.isDigit '"' = false from rfl,
    Bool.false_eq_true]
  exact TextUnit.skipText_leaves found

/-- The bracket that closes the innermost list or object is passed over in one step. -/
theorem leadsOn_closing {fuel cost : Nat} (twoSteps : 1 < cost) (enough : cost ≤ fuel)
    (afterItem : Bool) (frame : Frame) (frames : List Frame) {cursor : Cursor} {gap : List Char}
    (isGap : IsGap gap) (left : cursor.rest = gap ++ frame.closing :: rest) :
    LeadsOn (skipOnward fuel afterItem (frame :: frames) cursor) fuel cost frames rest := by
  obtain ⟨fuel, rfl⟩ : ∃ later, fuel = later + 1 := Nat.exists_eq_succ_of_ne_zero (by omega)
  have visible : StartsVisibly (frame.closing :: rest) := by
    cases frame <;> simp [StartsVisibly, Frame.closing, Cursor.isGap]
  have closing := Cursor.rest_skipGap_of_gap isGap visible left
  refine ⟨fuel, cursor.skipGap.skip 1, by omega, by simp [closing], ?_⟩
  rw [skipOnward]
  simp [closing]

theorem isPassed_noItem (isFirst : Bool) {gap : List Char} (isGap : IsGap gap) :
    (Part.items isFirst []).IsPassed (gap ++ [']']) rest := by
  intro fuel frames cursor enough found
  have positive := length_pos_of_writes (.noItem isFirst isGap)
  exact leadsOn_closing (by omega) enough (!isFirst) .list frames isGap
    (by simpa [Frame.closing] using found)

theorem isPassed_noMember (isFirst : Bool) {gap : List Char} (isGap : IsGap gap) :
    (Part.members isFirst []).IsPassed (gap ++ ['}']) rest := by
  intro fuel frames cursor enough found
  have positive := length_pos_of_writes (.noMember isFirst isGap)
  exact leadsOn_closing (by omega) enough (!isFirst) .object frames isGap
    (by simpa [Frame.closing] using found)

/-- The first step of passing over a list or an object opens it. -/
theorem LeadsOn.opened {result : Except Fault Cursor} {fuel : Nat} {chars : List Char}
    {frames : List Frame} (leads : LeadsOn result fuel (2 * chars.length) frames rest) (c : Char) :
    LeadsOn result (fuel + 1) (2 * (c :: chars).length) frames rest := by
  obtain ⟨later, after, enough, left, same⟩ := leads
  rw [List.length_cons]
  exact ⟨later, after, by omega, left, same⟩

theorem isPassed_list {items : List Phrase} {chars : List Char}
    (inside : (Part.items true items).IsPassed chars rest) :
    (Part.phrase (.list items)).IsPassed ('[' :: chars) rest := by
  intro fuel frames cursor enough found
  rw [List.length_cons] at enough
  obtain ⟨fuel, rfl⟩ : ∃ later, fuel = later + 1 := Nat.exists_eq_succ_of_ne_zero (by omega)
  rw [skipValueIn]
  simp only [found, List.cons_append, ↓reduceIte]
  exact (inside fuel frames (cursor.skipGap.skip 1) (by omega) (by simp [found])).opened '['

theorem isPassed_object {members : List (List TextUnit × Phrase)} {chars : List Char}
    (inside : (Part.members true members).IsPassed chars rest) :
    (Part.phrase (.object members)).IsPassed ('{' :: chars) rest := by
  intro fuel frames cursor enough found
  rw [List.length_cons] at enough
  obtain ⟨fuel, rfl⟩ : ∃ later, fuel = later + 1 := Nat.exists_eq_succ_of_ne_zero (by omega)
  rw [skipValueIn]
  simp only [found, List.cons_append, Char.reduceEq, ↓reduceIte]
  exact (inside fuel frames (cursor.skipGap.skip 1) (by omega) (by simp [found])).opened '{'

/-- Between two items the comma and the blanks around it are passed over. -/
theorem skipOnward_lead (fuel : Nat) (isFirst : Bool) (frame : Frame) (frames : List Frame)
    {cursor : Cursor} {gap space more : List Char} {c : Char} (isGap : IsGap gap)
    (isSpace : IsGap space) (visible : Cursor.isGap c = false) (notClosing : c ≠ frame.closing)
    (left : cursor.rest = lead isFirst gap space ++ c :: more) :
    ∃ start : Cursor, start.skipGap.rest = c :: more ∧
      skipOnward (fuel + 1) (!isFirst) (frame :: frames) cursor =
        ((if frame = .object then skipName start else .ok start) >>= fun after =>
          skipValueIn fuel (frame :: frames) after) := by
  have starts : StartsVisibly (c :: more) := by simpa [StartsVisibly] using visible
  rw [skipOnward]
  cases isFirst with
  | true =>
      have found : cursor.skipGap.rest = c :: more :=
        Cursor.rest_skipGap_of_gap isSpace starts (by simpa [lead] using left)
      refine ⟨cursor.skipGap, Cursor.rest_skipGap_of_gap isGap_nil starts found, ?_⟩
      cases frame <;> simp [found, notClosing]
  | false =>
      have separated : cursor.skipGap.rest = ',' :: (space ++ c :: more) :=
        Cursor.rest_skipGap_of_gap isGap (by simp [StartsVisibly, Cursor.isGap])
          (by simpa [lead] using left)
      have commaIsNotClosing : ',' ≠ frame.closing := by cases frame <;> decide
      refine ⟨cursor.skipGap.skip 1,
        Cursor.rest_skipGap_of_gap isSpace starts (by simp [separated]), ?_⟩
      cases frame <;> simp [separated, commaIsNotClosing]

theorem isPassed_item (isFirst : Bool) {item : Phrase} {items : List Phrase}
    {gap space chars more : List Char} (isGap : IsGap gap) (isSpace : IsGap space)
    (written : Writes (.phrase item) chars)
    (first : (Part.phrase item).IsPassed chars (more ++ rest))
    (laterWritten : Writes (.items false items) more)
    (later : (Part.items false items).IsPassed more rest) :
    (Part.items isFirst (item :: items)).IsPassed (lead isFirst gap space ++ (chars ++ more))
      rest := by
  intro fuel frames cursor enough found
  have positive := length_pos_of_writes laterWritten
  simp only [List.length_append] at enough ⊢
  obtain ⟨fuel, rfl⟩ : ∃ later, fuel = later + 1 := Nat.exists_eq_succ_of_ne_zero (by omega)
  obtain ⟨c, others, rfl, visible, notClosing⟩ := visible_head_of_writes written
  obtain ⟨start, starts, step⟩ := skipOnward_lead fuel isFirst .list frames isGap isSpace visible
    notClosing (by simpa using found)
  rw [step]
  exact (first fuel (.list :: frames) start (by omega) (by simpa using starts)).trans
    (fun left after enoughLeft behind => later left frames after (by omega) behind) (by omega)

theorem skipName_leaves {units : List TextUnit} {cursor : Cursor} {before rest : List Char}
    (isBefore : IsGap before)
    (starts : cursor.skipGap.rest = TextUnit.quoted units ++ (before ++ ':' :: rest)) :
    Leaves (skipName cursor) rest := by
  obtain ⟨after, skipped, left⟩ := TextUnit.skipText_leaves starts
  obtain ⟨colon, passed, behind⟩ := readColon_leaves isBefore left
  refine ⟨colon, ?_, behind⟩
  unfold skipName
  simp only [TextUnit.quoted, List.cons_append] at starts
  simp [starts, skipped, passed]

theorem isPassed_member (isFirst : Bool) (units : List TextUnit) {phrase : Phrase}
    {members : List (List TextUnit × Phrase)} {gap space before behind chars more : List Char}
    (isGap : IsGap gap) (isSpace : IsGap space) (isBefore : IsGap before)
    (isBehind : IsGap behind) (written : Writes (.phrase phrase) chars)
    (first : (Part.phrase phrase).IsPassed chars (more ++ rest))
    (later : (Part.members false members).IsPassed more rest) :
    (Part.members isFirst ((units, phrase) :: members)).IsPassed
      (lead isFirst gap space ++
        (TextUnit.quoted units ++ (before ++ ':' :: (behind ++ (chars ++ more))))) rest := by
  intro fuel frames cursor enough found
  simp only [List.length_append, List.length_cons] at enough ⊢
  obtain ⟨fuel, rfl⟩ : ∃ later, fuel = later + 1 := Nat.exists_eq_succ_of_ne_zero (by omega)
  simp only [List.append_assoc, List.cons_append] at found
  obtain ⟨start, starts, step⟩ := skipOnward_lead fuel isFirst .object frames isGap isSpace
    (by decide : Cursor.isGap '"' = false) (by decide) found
  obtain ⟨colon, passed, left⟩ := skipName_leaves isBefore starts
  have visible := rest_skipGap_of_writes written isBehind left
  rw [step, if_pos rfl, passed, ok_bind]
  exact (first fuel (.object :: frames) colon (by omega) visible).trans
    (fun left after enoughLeft behind => later left frames after (by omega) behind) (by omega)

/-- Every written part is passed over. -/
theorem isPassed_of_writes {part : Part} {chars : List Char} (written : Writes part chars)
    (stops : Stops rest) : part.IsPassed chars rest := by
  induction written generalizing rest with
  | null => exact isPassed_word .null ⟨rfl, rfl⟩ fun _ => rfl
  | yes => exact isPassed_word .yes ⟨rfl, rfl⟩ fun _ => rfl
  | no => exact isPassed_word .no ⟨rfl, rfl⟩ fun _ => rfl
  | number numeral => exact isPassed_number numeral stops
  | text units => exact isPassed_text units
  | list _ ih => exact isPassed_list (ih stops)
  | object _ ih => exact isPassed_object (ih stops)
  | noItem isFirst isGap => exact isPassed_noItem isFirst isGap
  | item isFirst isGap isSpace first later firstIH laterIH =>
      exact isPassed_item isFirst isGap isSpace first (firstIH (stops_of_items later rest)) later
        (laterIH stops)
  | noMember isFirst isGap => exact isPassed_noMember isFirst isGap
  | member isFirst name isGap isSpace isBefore isBehind first later firstIH laterIH =>
      exact isPassed_member isFirst name isGap isSpace isBefore isBehind first
        (firstIH (stops_of_members later rest)) (laterIH stops)

/-- A written phrase is passed over, whatever it is. -/
theorem skipValue_of_writes {phrase : Phrase} {chars : List Char}
    (written : Writes (.phrase phrase) chars) (stops : Stops rest) {cursor : Cursor}
    {gap : List Char} (isGap : IsGap gap) (left : cursor.rest = gap ++ (chars ++ rest)) :
    Leaves (skipValue cursor) rest := by
  have enough : 2 * chars.length ≤ stepsFor cursor := by
    simp [stepsFor, left]
    omega
  obtain ⟨later, after, -, behind, same⟩ := isPassed_of_writes written stops (stepsFor cursor)
    [] cursor enough (rest_skipGap_of_writes written isGap left)
  refine ⟨after, ?_, behind⟩
  rw [skipValue, same, skipOnward]

end Parts

end Polyview.Json
