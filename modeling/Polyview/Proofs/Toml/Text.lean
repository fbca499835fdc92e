import Mathlib.Tactic.SplitIfs
import Polyview.Escape.TomlString
import Polyview.Toml.Text

/-!
# Quoted strings read back

A text that was quoted for a manifest is read back as it was, whichever characters it has.
-/

namespace Polyview.Toml

open TomlString (escapedChar fourHexDigits hexDigit isControl quote)

/-! ## One character -/

theorem hexValue?_hexDigit : ∀ digit < 16, hexValue? (hexDigit digit) = some digit := by
  decide

/-- Four digits are enough for the characters that they are used for. -/
theorem hexChar?_fourHexDigits {c : Char} (isSmall : c.toNat < 65536) :
    hexChar? (fourHexDigits c.toNat) = some c := by
  have digit (number : Nat) : hexValue? (hexDigit (number % 16)) = some (number % 16) :=
    hexValue?_hexDigit _ (Nat.mod_lt _ (by decide))
  have together : 16 * (16 * (16 * (16 * 0 + c.toNat / 4096 % 16) + c.toNat / 256 % 16) +
      c.toNat / 16 % 16) + c.toNat % 16 = c.toNat := by
    omega
  have isValid : c.toNat.isValidChar := c.valid
  simp only [hexChar?, fourHexDigits, List.mapM_cons, List.mapM_nil, digit, Option.pure_def,
    Option.bind_eq_bind, Option.bind_some, List.foldl_cons, List.foldl_nil, together]
  simp [isValid]

theorem isPlain_of_not_isControl {c : Char} (notControl : ¬isControl c = true) : isPlain c := by
  simp only [isControl, Bool.or_eq_true, decide_eq_true_eq, Bool.and_eq_true] at notControl
  simp only [isPlain, Bool.or_eq_true, decide_eq_true_eq, Bool.and_eq_true, bne_iff_ne]
  omega

theorem readBasic_escape {c : Char} {escape rest : List Char}
    (isEscape : readEscape? escape = some (c, rest)) (fuel : Nat) :
    readBasic (fuel + 1) ('\\' :: escape) =
      (readBasic fuel rest).map fun (body, rest) => (c :: body, rest) := by
  simp only [readBasic, isEscape, Option.bind_eq_bind, Option.bind_some]
  cases readBasic fuel rest <;> rfl

theorem readBasic_plain {c : Char} (notBackslash : ¬c = '\\') (notQuote : ¬c = '"')
    (plain : isPlain c) (fuel : Nat) (rest : List Char) :
    readBasic (fuel + 1) (c :: rest) =
      (readBasic fuel rest).map fun (body, rest) => (c :: body, rest) := by
  rw [readBasic.eq_3 _ _ _ (by simpa using notQuote) (by simpa using notBackslash)]
  cases readBasic fuel rest <;> simp [plain]

/-- A character is read off however it was written. -/
theorem readBasic_escapedChar (c : Char) (fuel : Nat) (rest : List Char) :
    readBasic (fuel + 1) (escapedChar c ++ rest) =
      (readBasic fuel rest).map fun (body, rest) => (c :: body, rest) := by
  unfold escapedChar
  split_ifs with isBackslash isQuote isLineFeed isReturn isTab isControl
  · subst isBackslash
    exact readBasic_escape rfl fuel
  · subst isQuote
    exact readBasic_escape rfl fuel
  · subst isLineFeed
    exact readBasic_escape rfl fuel
  · subst isReturn
    exact readBasic_escape rfl fuel
  · subst isTab
    exact readBasic_escape rfl fuel
  · have isSmall : c.toNat < 65536 := by
      simp only [TomlString.isControl, Bool.or_eq_true, decide_eq_true_eq, Bool.and_eq_true]
        at isControl
      omega
    have number := hexChar?_fourHexDigits isSmall
    apply readBasic_escape
    simp only [fourHexDigits] at number
    simp [readEscape?, fourHexDigits, number]
  · exact readBasic_plain isBackslash isQuote (isPlain_of_not_isControl isControl) fuel rest

/-- A quoted string is read up to its own closing quote. -/
theorem readBasic_escaped (text rest : List Char) {fuel : Nat} (enough : text.length ≤ fuel) :
    readBasic fuel (text.flatMap escapedChar ++ '"' :: rest) = some (text, rest) := by
  induction text generalizing fuel with
  | nil => cases fuel <;> rfl
  | cons c text ih =>
      obtain ⟨fuel, rfl⟩ : ∃ less, fuel = less + 1 := Nat.exists_eq_succ_of_ne_zero (by
        simp only [List.length_cons] at enough
        omega)
      rw [List.flatMap_cons, List.append_assoc, readBasic_escapedChar,
        ih (by simpa using enough)]
      rfl

/-! ## The whole string -/

theorem escapedChar_ne_nil (c : Char) : escapedChar c ≠ [] := by
  unfold escapedChar
  split_ifs <;> simp

theorem escapedChar_head_ne_quote (c : Char) : (escapedChar c).head? ≠ some '"' := by
  unfold escapedChar
  split_ifs <;> simp_all

theorem length_le_escaped (text : List Char) :
    text.length ≤ (text.flatMap escapedChar).length := by
  induction text with
  | nil => exact Nat.le_refl _
  | cons c text ih =>
      have nonempty := List.length_pos_iff.mpr (escapedChar_ne_nil c)
      simp only [List.length_cons, List.flatMap_cons, List.length_append]
      omega

theorem toList_quote (text : String) :
    (quote text).toList = '"' :: (text.toList.flatMap escapedChar ++ ['"']) := by
  simp [quote]

/-- The opening quote of a quoted string is not the first of three. -/
theorem readText?_of_not_three {text : List Char}
    (notThree : ∀ rest, text ≠ '"' :: '"' :: rest) :
    readText? ('"' :: text) = readBasic text.length text := by
  unfold readText?
  split
  next rest three => exact absurd (List.cons.inj three).2 (notThree rest)
  next three => simp at three
  next => rfl

theorem readText?_quote (text : String) {rest : List Char} (notQuote : rest.head? ≠ some '"') :
    readText? ((quote text).toList ++ rest) = some (text.toList, rest) := by
  have enough := length_le_escaped text.toList
  have whole : (quote text).toList ++ rest =
      '"' :: (text.toList.flatMap escapedChar ++ '"' :: rest) := by
    simp [toList_quote]
  rw [whole, readText?_of_not_three, readBasic_escaped]
  · simp only [List.length_append]
    omega
  · intro beyond three
    cases spelled : text.toList with
    | nil => simp_all
    | cons c more =>
        have head := escapedChar_head_ne_quote c
        cases escaped : escapedChar c with
        | nil => exact escapedChar_ne_nil c escaped
        | cons first others => simp_all

end Polyview.Toml
