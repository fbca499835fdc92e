import Polyview.Proofs.Disk.Place

/-!
# Plain paths

A plain path is spelled with names that entries of folders can have, and with single slashes between
them. Without its last name it is the path of the folder around, whatever stands before it.
-/

namespace Polyview

/-- A name that an entry of a folder can have. -/
structure Disk.IsEntryName (name : String) : Prop extends IsOrdinary name where
  noSlash : '/' ∉ name.toList
  fits : name.utf8ByteSize ≤ longestName

instance : DecidablePred Disk.IsEntryName := fun name =>
  decidable_of_iff (name ≠ "" ∧ name ≠ "." ∧ name ≠ ".." ∧ '/' ∉ name.toList ∧
      name.utf8ByteSize ≤ Disk.longestName)
    ⟨fun ⟨notEmpty, notPoint, notPoints, noSlash, fits⟩ =>
        ⟨⟨notEmpty, notPoint, notPoints⟩, noSlash, fits⟩,
      fun isEntryName => ⟨isEntryName.notEmpty, isEntryName.notPoint, isEntryName.notPoints,
        isEntryName.noSlash, isEntryName.fits⟩⟩

namespace Path

open Disk (IsEntryName)

/-! ## Folders around paths -/

theorem toList_ne_point {name : String} (notPoint : name ≠ ".") : name.toList ≠ ['.'] := by
  simpa [← String.toList_inj] using notPoint

/-- Characters of a name begin neither with a slash nor with a point that stands for a folder. -/
theorem append_not_special {chars : List Char} (notEmpty : chars ≠ []) (noSlash : '/' ∉ chars)
    (notPoint : chars ≠ ['.']) (rest : List Char) :
    (∀ other, chars ++ rest ≠ '/' :: other) ∧ chars ++ rest ≠ ['.'] ∧
      ∀ other, chars ++ rest ≠ '.' :: '/' :: other := by
  obtain ⟨c, more, rfl⟩ := List.exists_cons_of_ne_nil notEmpty
  refine ⟨?_, ?_, ?_⟩
  · rintro other ⟨⟩
    exact noSlash List.mem_cons_self
  · intro isPoint
    obtain ⟨rfl, nothing⟩ := List.cons.inj isPoint
    obtain ⟨rfl, -⟩ := List.append_eq_nil_iff.mp nothing
    exact notPoint rfl
  · intro other isPointSlash
    obtain ⟨rfl, isSlash⟩ := List.cons.inj isPointSlash
    cases more with
    | nil => exact notPoint rfl
    | cons next more =>
        obtain ⟨rfl, -⟩ := List.cons.inj isSlash
        exact noSlash (List.mem_cons_of_mem _ List.mem_cons_self)

theorem dropSeparators_name {name : String} (isEntryName : IsEntryName name) (rest : List Char) :
    dropSeparators (name.toList.reverse ++ rest) = name.toList.reverse ++ rest := by
  have notEmpty : name.toList.reverse ≠ [] := by simpa using isEntryName.notEmpty
  have noSlash : '/' ∉ name.toList.reverse := by simpa using isEntryName.noSlash
  have notPoint : name.toList.reverse ≠ ['.'] := by
    intro isPoint
    apply toList_ne_point isEntryName.notPoint
    rw [← List.reverse_reverse name.toList, isPoint]
    rfl
  obtain ⟨notSlash, notPoint, notPointSlash⟩ := append_not_special notEmpty noSlash notPoint rest
  rw [dropSeparators]
  · exact notSlash
  · exact notPoint
  · exact notPointSlash

theorem anchor_prefix (chars : List Char) : anchor chars <+: chars := by
  unfold anchor
  split
  · exact ⟨_, rfl⟩
  · exact List.prefix_refl _
  · exact ⟨_, rfl⟩
  · exact List.nil_prefix

theorem length_anchor_le (chars : List Char) : (anchor chars).length ≤ 1 := by
  unfold anchor
  split <;> simp

/-- An anchor ends before the last name that has a slash behind it. -/
theorem anchor_prefix_of_name {last : String} (isLast : IsEntryName last)
    (before rest : List Char) :
    anchor (before ++ (last.toList ++ '/' :: rest)) <+: before := by
  cases before with
  | cons first before =>
      have isPrefix := anchor_prefix (first :: before ++ (last.toList ++ '/' :: rest))
      have isShort := length_anchor_le (first :: before ++ (last.toList ++ '/' :: rest))
      exact List.prefix_of_prefix_length_le isPrefix (List.prefix_append _ _)
        (Nat.le_trans isShort (Nat.succ_le_succ (Nat.zero_le _)))
  | nil =>
      have notEmpty : last.toList ≠ [] := by simpa using isLast.notEmpty
      obtain ⟨notSlash, notPoint, notPointSlash⟩ := append_not_special notEmpty isLast.noSlash
        (toList_ne_point isLast.notPoint) ('/' :: rest)
      have noAnchor : anchor (last.toList ++ '/' :: rest) = [] := by
        rw [anchor]
        · exact notSlash
        · exact notPoint
        · exact notPointSlash
      exact List.prefix_nil.mpr noAnchor

theorem dropWhile_isNameChar {name : String} (noSlash : '/' ∉ name.toList) (rest : List Char) :
    (name.toList.reverse ++ '/' :: rest).dropWhile isNameChar = '/' :: rest := by
  have allNameChars : ∀ c ∈ name.toList.reverse, isNameChar c = true := by
    intro c member
    have notSlash : c ≠ '/' := by
      rintro rfl
      exact noSlash (List.mem_reverse.mp member)
    simpa [isNameChar] using notSlash
  rw [List.dropWhile_append_of_pos allNameChars]
  rfl

/-- The folder around a name behind a slash, whatever stands before the name of this folder. -/
theorem parent?_append {last name : String} (isLast : IsEntryName last)
    (isEntryName : IsEntryName name) (before : String) :
    parent? (before ++ last ++ "/" ++ name) = some (before ++ last) := by
  have chars : (before ++ last ++ "/" ++ name).toList =
      before.toList ++ (last.toList ++ '/' :: name.toList) := by
    simp
  obtain ⟨inner, isBefore⟩ := anchor_prefix_of_name isLast before.toList name.toList
  generalize isAnchor : anchor (before.toList ++ (last.toList ++ '/' :: name.toList)) = begun
    at isBefore
  -- The path is read from its end: the name up to the slash, and then the slash before what is left.
  have body : reversedBody (before ++ last ++ "/" ++ name).toList =
      name.toList.reverse ++ '/' :: (last.toList.reverse ++ inner.reverse) := by
    rw [reversedBody, chars, isAnchor, ← isBefore, List.append_assoc, List.drop_left]
    rw [List.reverse_append, List.reverse_append, List.reverse_cons, List.append_assoc,
      List.append_assoc, dropSeparators_name isEntryName]
    rfl
  have around : (dropSeparators ('/' :: (last.toList.reverse ++ inner.reverse))).reverse =
      inner ++ last.toList := by
    rw [dropSeparators, dropSeparators_name isLast]
    simp
  have notEmpty : name.toList.reverse ++ '/' :: (last.toList.reverse ++ inner.reverse) ≠ [] := by
    simp
  simp only [parent?]
  rw [body, chars, isAnchor]
  split
  next => contradiction
  next => contradiction
  next =>
    rw [dropWhile_isNameChar isEntryName.noSlash, around, ← List.append_assoc, isBefore]
    simp

/-- Behind a name, a path goes on with a slash. -/
theorem beginning_append {name : String} (isEntryName : IsEntryName name) (before : String) :
    beginning (before ++ name) = before ++ name ++ "/" := by
  have notEmpty : ¬(before ++ name).isEmpty := by simp [isEntryName.notEmpty]
  have notSlash : (before ++ name).toList.getLast? ≠ some '/' := by
    have someChars : name.toList ≠ [] := by simpa using isEntryName.notEmpty
    intro isSlash
    rw [String.toList_append, List.getLast?_append,
      List.getLast?_eq_some_getLast someChars, Option.some_or] at isSlash
    exact isEntryName.noSlash (Option.some.inj isSlash ▸ List.getLast_mem someChars)
  rw [beginning, if_neg (not_or.mpr ⟨notEmpty, notSlash⟩)]

theorem join_append_name {name inner : String} (isEntryName : IsEntryName name)
    (isRelative : isAbsolute inner = false) (before : String) :
    join (before ++ name) inner = before ++ (name ++ "/" ++ inner) := by
  rw [join_of_relative isRelative, beginning_append isEntryName]
  simp only [String.append_assoc]

theorem exists_ancestorsUpTo_eq_cons {path : String} (notEmpty : path ≠ "") {count : Nat}
    (positive : 0 < count) : ∃ outer, ancestorsUpTo count path = path :: outer := by
  obtain ⟨count, rfl⟩ := Nat.exists_eq_succ_of_ne_zero (Nat.ne_of_gt positive)
  rw [ancestorsUpTo, if_neg (by simpa using notEmpty)]
  split
  · exact ⟨_, rfl⟩
  · exact ⟨[], rfl⟩

/-! ## Plain paths -/

/-- A path that is spelled with names of entries alone. -/
inductive IsPlain : String → Prop
  | name {name : String} (isEntryName : IsEntryName name) : IsPlain name
  | inside {outer name : String} (isPlain : IsPlain outer) (isEntryName : IsEntryName name) :
      IsPlain (outer ++ "/" ++ name)

theorem names_of_noSlash {name : String} (noSlash : '/' ∉ name.toList) : names name = [name] := by
  rw [names, namesFrom_of_notMem [] noSlash]
  simp

theorem lastName_of_noSlash {name : String} (noSlash : '/' ∉ name.toList) :
    lastName name = name := by
  have isLast := getLast?_names name
  rw [names_of_noSlash noSlash, List.getLast?_singleton] at isLast
  exact (Option.some.inj isLast).symm

theorem names_append_name {name : String} (noSlash : '/' ∉ name.toList) (outer : String) :
    names (outer ++ "/" ++ name) = names outer ++ [name] := by
  rw [names_append_slash, names_of_noSlash noSlash]

namespace IsPlain

variable {text outer name : String}

theorem ne_empty (isPlain : IsPlain text) : text ≠ "" := by
  cases isPlain with
  | name isEntryName => exact isEntryName.notEmpty
  | inside isPlain isEntryName => simp

theorem isAbsolute_eq_false (isPlain : IsPlain text) : isAbsolute text = false := by
  induction isPlain with
  | @name name isEntryName =>
      have noSlash := isEntryName.noSlash
      cases chars : name.toList with
      | nil => simp [isAbsolute, chars]
      | cons c rest =>
          rw [chars] at noSlash
          have notSlash : c ≠ '/' := fun isSlash => noSlash (isSlash ▸ List.mem_cons_self)
          simp [isAbsolute, chars, notSlash]
  | inside isPlain isEntryName ih =>
      rw [String.append_assoc, isAbsolute_append isPlain.ne_empty, ih]

theorem length_names_le (isPlain : IsPlain text) : (names text).length ≤ text.length := by
  induction isPlain with
  | @name name isEntryName =>
      have notEmpty : name.length ≠ 0 := by simpa using isEntryName.notEmpty
      rw [names_of_noSlash isEntryName.noSlash, List.length_singleton]
      omega
  | @inside outer name isPlain isEntryName ih =>
      rw [names_append_name isEntryName.noSlash, List.length_append, List.length_singleton,
        String.length_append, String.length_append]
      have slash : "/".length = 1 := rfl
      omega

theorem isEntryName_lastName (isPlain : IsPlain text) : IsEntryName (lastName text) := by
  cases isPlain with
  | name isEntryName => rwa [lastName_of_noSlash isEntryName.noSlash]
  | inside isPlain isEntryName =>
      rwa [lastName_append_slash, lastName_of_noSlash isEntryName.noSlash]

theorem exists_last (isPlain : IsPlain text) :
    ∃ before last, IsEntryName last ∧ text = before ++ last := by
  cases isPlain with
  | name isEntryName => exact ⟨"", text, isEntryName, String.empty_append.symm⟩
  | @inside outer name isPlain isEntryName => exact ⟨outer ++ "/", name, isEntryName, rfl⟩

/-- The folder around what a plain path leads to. -/
theorem parent?_inside (isPlain : IsPlain outer) (isEntryName : IsEntryName name)
    (stem : String) : parent? (stem ++ (outer ++ "/" ++ name)) = some (stem ++ outer) := by
  obtain ⟨before, last, isLast, rfl⟩ := isPlain.exists_last
  have whole := parent?_append isLast isEntryName (stem ++ before)
  simpa only [String.append_assoc] using whole

theorem ancestorsUpTo_inside (isPlain : IsPlain outer) (isEntryName : IsEntryName name)
    (stem : String) (count : Nat) :
    ancestorsUpTo (count + 1) (stem ++ (outer ++ "/" ++ name)) =
      (stem ++ (outer ++ "/" ++ name)) :: ancestorsUpTo count (stem ++ outer) := by
  have notEmpty : ¬(stem ++ (outer ++ "/" ++ name)).isEmpty := by simp
  rw [ancestorsUpTo, if_neg notEmpty, isPlain.parent?_inside isEntryName]

end IsPlain

end Path

end Polyview
