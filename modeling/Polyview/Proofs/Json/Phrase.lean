import Mathlib.Data.List.Perm.Basic
import Polyview.Json.Text
import Polyview.Proofs.Json.Spelling

/-!
# JSON texts as phrases

A phrase is what the grammar sees in a JSON text: every number and every text as it is written,
every object with its members in their order. Only the blanks between the parts are left open. Nothing is
said here about what a phrase means, so a phrase may have a number that is out of range, half a
surrogate pair, or the same name twice.
-/

namespace Polyview.Json

/-! ## Texts -/

/-- A part of a text between double quotes. -/
inductive TextUnit where
  | plain (c : Char) (isPlain : c ≠ '"' ∧ c ≠ '\\' ∧ 0x20 ≤ c.toNat)
  | short (mark meaning : Char) (isShort : shortEscape? mark = some meaning)
  | code (first second third fourth : Char) (unit : Nat)
      (isCode : codeUnit? first second third fourth = some unit)

namespace TextUnit

def chars : TextUnit → List Char
  | .plain c _ => [c]
  | .short mark _ _ => ['\\', mark]
  | .code first second third fourth _ _ => ['\\', 'u', first, second, third, fourth]

/-- The characters that units stand for. A high and a low surrogate stand for one character
together, and one of them alone stands for none. -/
def meaning? : List TextUnit → Option (List Char)
  | [] => some []
  | .plain c _ :: rest => (meaning? rest).map (c :: ·)
  | .short _ c _ :: rest => (meaning? rest).map (c :: ·)
  | .code _ _ _ _ unit _ :: rest =>
      if isLowSurrogate unit then none
      else if isHighSurrogate unit then
        match rest with
        | .code _ _ _ _ low _ :: rest =>
            if isLowSurrogate low then (meaning? rest).map (pairedChar unit low :: ·) else none
        | _ => none
      else (meaning? rest).map (Char.ofNat unit :: ·)

/-- The text that units stand for. -/
def text? (units : List TextUnit) : Option String := (meaning? units).map String.ofList

/-- Units between their quotes. -/
def quoted (units : List TextUnit) : List Char := '"' :: (units.flatMap chars ++ ['"'])

end TextUnit

/-! ## Numbers -/

structure Digits where
  chars : List Char
  nonempty : chars ≠ []
  areDigits : ∀ c ∈ chars, c.isDigit = true

/-- The sign of an exponent. -/
inductive Sign where
  | none
  | plus
  | minus
  deriving DecidableEq

def Sign.chars : Sign → List Char
  | .none => []
  | .plus => ['+']
  | .minus => ['-']

structure Exponent where
  isCapital : Bool
  sign : Sign
  digits : Digits

def Exponent.chars (exponent : Exponent) : List Char :=
  (if exponent.isCapital then 'E' else 'e') :: (exponent.sign.chars ++ exponent.digits.chars)

/-- A number as it is written. -/
structure Numeral where
  isNegative : Bool
  whole : Digits
  noLeadingZero : ∀ c rest, whole.chars ≠ '0' :: c :: rest
  fraction : Option Digits
  exponent : Option Exponent

namespace Numeral

def fractionChars : Option Digits → List Char
  | none => []
  | some digits => '.' :: digits.chars

def exponentChars : Option Exponent → List Char
  | none => []
  | some exponent => exponent.chars

/-- A number behind its minus sign. -/
def unsignedChars (numeral : Numeral) : List Char :=
  numeral.whole.chars ++ (fractionChars numeral.fraction ++ exponentChars numeral.exponent)

def chars (numeral : Numeral) : List Char :=
  (if numeral.isNegative then ['-'] else []) ++ numeral.unsignedChars

end Numeral

/-! ## Phrases -/

inductive Phrase where
  | null
  | boolean (value : Bool)
  | number (numeral : Numeral)
  | text (units : List TextUnit)
  | list (items : List Phrase)
  | object (members : List (List TextUnit × Phrase))

/-- What can be written: a phrase, or what follows the opening bracket of a list or an object, or
one of its items or members, up to and with the closing bracket. -/
inductive Part where
  | phrase (phrase : Phrase)
  | items (isFirst : Bool) (items : List Phrase)
  | members (isFirst : Bool) (members : List (List TextUnit × Phrase))

/-- The ways to write a part. -/
inductive Writes : Part → List Char → Prop where
  | null : Writes (.phrase .null) ['n', 'u', 'l', 'l']
  | yes : Writes (.phrase (.boolean true)) ['t', 'r', 'u', 'e']
  | no : Writes (.phrase (.boolean false)) ['f', 'a', 'l', 's', 'e']
  | number (numeral : Numeral) : Writes (.phrase (.number numeral)) numeral.chars
  | text (units : List TextUnit) : Writes (.phrase (.text units)) (TextUnit.quoted units)
  | list {items : List Phrase} {chars : List Char} (inside : Writes (.items true items) chars) :
      Writes (.phrase (.list items)) ('[' :: chars)
  | object {members : List (List TextUnit × Phrase)} {chars : List Char}
      (inside : Writes (.members true members) chars) :
      Writes (.phrase (.object members)) ('{' :: chars)
  | noItem (isFirst : Bool) {gap : List Char} (isGap : IsGap gap) :
      Writes (.items isFirst []) (gap ++ [']'])
  | item (isFirst : Bool) {gap space chars more : List Char} {item : Phrase} {items : List Phrase}
      (isGap : IsGap gap) (isSpace : IsGap space) (first : Writes (.phrase item) chars)
      (later : Writes (.items false items) more) :
      Writes (.items isFirst (item :: items)) (lead isFirst gap space ++ (chars ++ more))
  | noMember (isFirst : Bool) {gap : List Char} (isGap : IsGap gap) :
      Writes (.members isFirst []) (gap ++ ['}'])
  | member (isFirst : Bool) (name : List TextUnit) {gap space before behind chars more : List Char}
      {phrase : Phrase} {members : List (List TextUnit × Phrase)}
      (isGap : IsGap gap) (isSpace : IsGap space) (isBefore : IsGap before)
      (isBehind : IsGap behind) (first : Writes (.phrase phrase) chars)
      (later : Writes (.members false members) more) :
      Writes (.members isFirst ((name, phrase) :: members))
        (lead isFirst gap space ++
          (TextUnit.quoted name ++ (before ++ ':' :: (behind ++ (chars ++ more)))))

namespace Phrase

/-- A text consists of a phrase, with blanks around it. -/
def IsText (phrase : Phrase) (text : String) : Prop :=
  ∃ before chars behind : List Char, IsGap before ∧ Writes (.phrase phrase) chars ∧
    IsGap behind ∧ text.toList = before ++ (chars ++ behind)

/-- Two phrases differ at most in the order of the members in their objects, at any depth. -/
inductive Reordered : Phrase → Phrase → Prop where
  | same (phrase : Phrase) : Reordered phrase phrase
  | trans {first second third : Phrase} (one : Reordered first second)
      (other : Reordered second third) : Reordered first third
  | members {first second : List (List TextUnit × Phrase)} (permuted : first.Perm second) :
      Reordered (.object first) (.object second)
  | inItem (before behind : List Phrase) {first second : Phrase}
      (inside : Reordered first second) :
      Reordered (.list (before ++ first :: behind)) (.list (before ++ second :: behind))
  | inMember (before behind : List (List TextUnit × Phrase)) (name : List TextUnit)
      {first second : Phrase} (inside : Reordered first second) :
      Reordered (.object (before ++ (name, first) :: behind))
        (.object (before ++ (name, second) :: behind))

/-- Two names do not stand for the same text. -/
def NamesDiffer (first second : List TextUnit × Phrase) : Prop :=
  ∀ name, TextUnit.text? first.1 = some name → TextUnit.text? second.1 ≠ some name

/-- No object in a phrase has a name twice. -/
inductive NamesOnce : Phrase → Prop where
  | null : NamesOnce .null
  | boolean (value : Bool) : NamesOnce (.boolean value)
  | number (numeral : Numeral) : NamesOnce (.number numeral)
  | text (units : List TextUnit) : NamesOnce (.text units)
  | list {items : List Phrase} (inside : ∀ item ∈ items, NamesOnce item) : NamesOnce (.list items)
  | object {members : List (List TextUnit × Phrase)} (differ : members.Pairwise NamesDiffer)
      (inside : ∀ member ∈ members, NamesOnce member.2) : NamesOnce (.object members)

theorem namesDiffer_symm {first second : List TextUnit × Phrase}
    (differ : NamesDiffer first second) : NamesDiffer second first := by
  intro name isSecond isFirst
  exact differ name isFirst isSecond

theorem Reordered.namesOnce {first second : Phrase} (reordered : Reordered first second)
    (once : NamesOnce first) : NamesOnce second := by
  induction reordered with
  | same => exact once
  | trans _ _ oneIH otherIH => exact otherIH (oneIH once)
  | members permuted =>
      cases once with
      | object differ inside =>
          refine .object (permuted.pairwise differ namesDiffer_symm) ?_
          intro member isMember
          exact inside member (permuted.mem_iff.mpr isMember)
  | inItem before behind _ ih =>
      cases once with
      | list inside =>
          rw [List.forall_mem_append, List.forall_mem_cons] at inside
          refine .list ?_
          rw [List.forall_mem_append, List.forall_mem_cons]
          exact ⟨inside.1, ih inside.2.1, inside.2.2⟩
  | inMember before behind name _ ih =>
      cases once with
      | object differ inside =>
          rw [List.forall_mem_append, List.forall_mem_cons] at inside
          refine .object ?_ ?_
          · rw [List.pairwise_append, List.pairwise_cons] at differ ⊢
            obtain ⟨among, ⟨behindIt, amongBehind⟩, across⟩ := differ
            refine ⟨among, ⟨behindIt, amongBehind⟩, ?_⟩
            intro member isBefore
            have apart := across member isBefore
            rw [List.forall_mem_cons] at apart ⊢
            exact ⟨apart.1, apart.2⟩
          · rw [List.forall_mem_append, List.forall_mem_cons]
            exact ⟨inside.1, ih inside.2.1, inside.2.2⟩

end Phrase

end Polyview.Json
