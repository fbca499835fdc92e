import Polyview.Proofs.Markup.Extension
import Polyview.Proofs.Render.Windows

/-!
# Values in binding extensions

A backslash keeps braces and commas of a value from having a meaning in the extension around it.
A backslash of the value itself is not marked, however, so that it changes the meaning of what
follows.
-/

namespace Polyview.Render.Windows

open Markup

/-- The extension that an attribute holds, by the text between its quotes. -/
def attributeExtension? (written : List Char) : Option Extension :=
  match readUntil '"' (written ++ ['"']) with
  | some (decoded, []) => extension? decoded
  | _ => none

/-- A binding extension with a text as its only argument. -/
def bindingTo (value : String) : Extension := ⟨saying "Binding".toList, [saying value.toList]⟩

/-! ## Symbols of marked values -/

theorem marked_cons (c : Char) (value : List Char) :
    marked (c :: value) = markedChar c ++ marked value :=
  List.flatMap_cons

theorem symbolsFrom_backslash (rest : List Char) :
    symbolsFrom false ('\\' :: rest) = symbolsFrom true rest := by
  rw [symbolsFrom, if_pos rfl]

theorem symbolOf_of_not_mark {c : Char} (notMark : ¬isExtensionMark c = true) :
    symbolOf c = .char c := by
  simp only [isExtensionMark, Bool.or_eq_true, beq_iff_eq, not_or] at notMark
  obtain ⟨⟨notOpening, notClosing⟩, notComma⟩ := notMark
  rw [symbolOf, if_neg notOpening, if_neg notClosing, if_neg notComma]

theorem symbolOf_of_mark {c : Char} (isMark : isExtensionMark c = true) (other : Char) :
    symbolOf c ≠ .char other := by
  simp only [isExtensionMark, Bool.or_eq_true, beq_iff_eq] at isMark
  rcases isMark with (rfl | rfl) | rfl <;> simp [symbolOf]

theorem ne_backslash_of_mark {c : Char} (isMark : isExtensionMark c = true) : c ≠ '\\' := by
  rintro rfl
  cases isMark

/-- A character with its mark stands for itself, unless it is a backslash. -/
theorem symbolsFrom_markedChar {c : Char} (notBackslash : c ≠ '\\') (rest : List Char) :
    symbolsFrom false (markedChar c ++ rest) = (symbolsFrom false rest).map (.char c :: ·) := by
  unfold markedChar
  split
  next => rw [List.cons_append, symbolsFrom_backslash, List.singleton_append, symbolsFrom]
  next notMark =>
    rw [List.singleton_append, symbolsFrom, if_neg notBackslash, symbolOf_of_not_mark notMark]

theorem symbolsFrom_marked {value : List Char} (noBackslash : '\\' ∉ value) (rest : List Char) :
    symbolsFrom false (marked value ++ rest) =
      (symbolsFrom false rest).map (value.map .char ++ ·) := by
  induction value with
  | nil => simp [marked]
  | cons c value ih =>
      obtain ⟨notBackslash, noBackslash⟩ := not_or.mp (mt List.mem_cons.mpr noBackslash)
      rw [marked_cons, List.append_assoc, symbolsFrom_markedChar (Ne.symm notBackslash),
        ih noBackslash, Option.map_map]
      rfl

/-! ## Backslashes -/

/-- Each character of a value gives at most one symbol. Behind a backslash there may be one symbol
more, as the backslash before a mark is then a symbol of its own. -/
theorem length_symbols_le {value : List Char} {behind : Bool} {symbols : List Symbol}
    (read : symbolsFrom behind (marked value ++ ['\x7d']) = some symbols) :
    symbols.length ≤ value.length + 1 + behind.toNat := by
  induction value generalizing behind symbols with
  | nil =>
      cases behind with
      | false =>
          obtain rfl : [.closing] = symbols := Option.some.inj read
          simp
      | true =>
          obtain rfl : [.char '\x7d'] = symbols := Option.some.inj read
          simp
  | cons c value ih =>
      rw [marked_cons, List.append_assoc] at read
      have after {behind : Bool} {first : Symbol} {later : List Symbol}
          (rest : (symbolsFrom behind (marked value ++ ['\x7d'])).map (first :: ·) = some later) :
          later.length ≤ value.length + 2 + behind.toNat := by
        obtain ⟨others, readOthers, rfl⟩ := Option.map_eq_some_iff.mp rest
        have bound := ih readOthers
        rw [List.length_cons]
        omega
      by_cases isMark : isExtensionMark c = true
      · have isMarked : markedChar c = ['\\', c] := if_pos isMark
        cases behind with
        | false =>
            rw [symbolsFrom_markedChar (ne_backslash_of_mark isMark)] at read
            simpa using after read
        | true =>
            rw [isMarked, List.cons_append, symbolsFrom, List.singleton_append, symbolsFrom,
              if_neg (ne_backslash_of_mark isMark)] at read
            obtain ⟨others, readOthers, rfl⟩ := Option.map_eq_some_iff.mp read
            simpa using after readOthers
      · have isMarked : markedChar c = [c] := if_neg isMark
        rw [isMarked, List.singleton_append] at read
        cases behind with
        | true =>
            rw [symbolsFrom] at read
            have bound := after read
            simp only [List.length_cons, Bool.toNat_true, Bool.toNat_false] at bound ⊢
            omega
        | false =>
            by_cases isBackslash : c = '\\'
            · rw [isBackslash, symbolsFrom_backslash] at read
              simpa [Nat.add_assoc] using ih read
            · rw [symbolsFrom, if_neg isBackslash] at read
              simpa using after read

/-- A backslash before a marked value does not stand for itself. It could only do so before another
backslash, and then there are too few characters left. -/
theorem symbols_behind_backslash (value : List Char) :
    symbolsFrom true (marked value ++ ['\x7d']) ≠
      some (.char '\\' :: (value.map .char ++ [.closing])) := by
  intro read
  cases value with
  | nil => simp [marked, symbolsFrom] at read
  | cons c value =>
      rw [marked_cons, List.append_assoc] at read
      unfold markedChar at read
      split at read
      next isMark =>
        -- The backslash that belongs to the mark is taken, and the mark has its meaning again.
        rw [List.cons_append, symbolsFrom, List.singleton_append, symbolsFrom,
          if_neg (ne_backslash_of_mark isMark), Option.map_map, Option.map_eq_some_iff] at read
        obtain ⟨others, -, same⟩ := read
        exact symbolOf_of_mark isMark c (List.cons.inj (List.cons.inj same).2).1
      next =>
        rw [List.singleton_append, symbolsFrom, Option.map_eq_some_iff] at read
        obtain ⟨others, readOthers, same⟩ := read
        have bound := length_symbols_le readOthers
        rw [(List.cons.inj same).2] at bound
        simp only [List.length_cons, List.length_append, List.length_map, List.length_nil,
          Bool.toNat_false] at bound
        omega

theorem symbolsFrom_marked_eq_some_iff (value : List Char) :
    symbolsFrom false (marked value ++ ['\x7d']) = some (value.map .char ++ [.closing]) ↔
      '\\' ∉ value := by
  constructor
  · induction value with
    | nil => exact fun _ => List.not_mem_nil
    | cons c value ih =>
        intro read
        rw [marked_cons, List.append_assoc] at read
        by_cases isBackslash : c = '\\'
        · subst isBackslash
          exact absurd read (symbols_behind_backslash value)
        · rw [symbolsFrom_markedChar isBackslash, Option.map_eq_some_iff] at read
          obtain ⟨others, readOthers, same⟩ := read
          rw [(List.cons.inj same).2] at readOthers
          rw [List.mem_cons, not_or]
          exact ⟨Ne.symm isBackslash, ih readOthers⟩
  · intro noBackslash
    rw [symbolsFrom_marked noBackslash]
    rfl

/-! ## Bindings -/

theorem attributeExtension?_binding (value : String) :
    attributeExtension? ("\x7bBinding " ++ pathText value ++ "\x7d").toList =
      extension? ('\x7b' :: (marked ("Binding ".toList ++ value.toList) ++ ['\x7d'])) := by
  have decoded := (decodes_bindingFor value).readUntil_closing (by decide) []
  have isMarked : (bindingFor value).toList =
      '\x7b' :: (marked ("Binding ".toList ++ value.toList) ++ ['\x7d']) := by
    simp [bindingFor, marked, markedChar, isExtensionMark]
  have chars : ("\x7bBinding " ++ pathText value ++ "\x7d").toList ++ ['"'] =
      "\x7bBinding ".toList ++ ((pathText value).toList ++ ['\x7d']) ++ ['"'] := by
    simp
  rw [attributeExtension?, chars, decoded, isMarked]

theorem extension?_binding_iff (value : List Char) :
    extension? ('\x7b' :: (marked ("Binding ".toList ++ value) ++ ['\x7d'])) =
        some ⟨saying "Binding".toList, [saying value]⟩ ↔
      symbolsFrom false (marked value ++ ['\x7d']) = some (value.map .char ++ [.closing]) := by
  have opened : symbolsFrom false ('\x7b' :: (marked ("Binding ".toList ++ value) ++ ['\x7d'])) =
      (symbolsFrom false (marked value ++ ['\x7d'])).map
        fun symbols => .opening :: ("Binding ".toList.map .char ++ symbols) := by
    have named := symbolsFrom_marked (show '\\' ∉ "Binding ".toList by decide)
      (marked value ++ ['\x7d'])
    have parted : marked ("Binding ".toList ++ value) = marked "Binding ".toList ++ marked value :=
      List.flatMap_append
    rw [symbolsFrom, if_neg (by decide), parted, List.append_assoc, named, Option.map_map]
    rfl
  rw [extension?_eq_some_iff, opened]
  constructor
  · rintro ⟨content, isSpelled, isBinding⟩
    obtain ⟨blank, rfl⟩ := content_eq_of_ofContent isBinding
    obtain ⟨symbols, read, same⟩ := Option.map_eq_some_iff.mp isSpelled
    have spelled : spelledAll (saying "Binding".toList ++ blank :: saying value) =
        "Binding".toList.map .char ++ (blank.spelled ++ value.map .char) := by
      rw [spelledAll_append, spelledAll_saying, spelledAll, spelledAll_saying]
    rw [spelled] at same
    have behindName : .char ' ' :: symbols =
        blank.spelled ++ (value.map .char ++ [.closing]) := by
      simpa using same
    cases blank with
    | char c =>
        rw [read, (List.cons.inj behindName).2]
        rfl
    | comma => cases (List.cons.inj behindName).1
    | extension inner => cases (List.cons.inj behindName).1
  · intro read
    refine ⟨saying ("Binding".toList ++ ' ' :: value), ?_, ofContent_saying (by decide)⟩
    rw [read, spelledAll_saying]
    simp

/-- The value of a binding reads back as it is, as the only argument of an extension that ends with
the text of the attribute, exactly if there is no backslash in it. -/
theorem binding_value_reads_back_iff (value : String) :
    attributeExtension? ("\x7bBinding " ++ pathText value ++ "\x7d").toList =
      some (bindingTo value) ↔ '\\' ∉ value.toList := by
  rw [attributeExtension?_binding, bindingTo, extension?_binding_iff,
    symbolsFrom_marked_eq_some_iff]

/-- A backslash at the end of a value takes its meaning from the brace that would end the extension,
and one before a comma takes that of the backslash that marks the comma. Both values would be read
back if the backslash had a backslash before it. -/
theorem binding_value_can_leave_extension :
    attributeExtension? ("\x7bBinding " ++ pathText "a\\" ++ "\x7d").toList = none ∧
    attributeExtension? ("\x7bBinding " ++ pathText "a\\,b" ++ "\x7d").toList =
      some ⟨saying "Binding".toList, [saying "a\\".toList, saying "b".toList]⟩ ∧
    attributeExtension? "\x7bBinding a\\\\\x7d".toList = some (bindingTo "a\\") ∧
    attributeExtension? "\x7bBinding a\\\\\\,b\x7d".toList = some (bindingTo "a\\,b") := by
  refine ⟨rfl, rfl, rfl, rfl⟩

end Polyview.Render.Windows
