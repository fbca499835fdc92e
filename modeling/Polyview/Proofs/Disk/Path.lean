import Polyview.Disk.Path

/-!
# The names of composed paths

The names of a path with a slash in it are those before the slash and those behind it. What is
appended without a slash goes on with the last name.
-/

namespace Polyview.Path

theorem namesFrom_append_slash (begun first second : List Char) :
    namesFrom begun (first ++ '/' :: second) = namesFrom begun first ++ namesFrom [] second := by
  induction first generalizing begun with
  | nil => simp [namesFrom]
  | cons c first ih =>
      rw [List.cons_append, namesFrom, namesFrom]
      split
      · rw [ih [], List.cons_append]
      · exact ih (c :: begun)

theorem names_append_slash (first second : String) :
    names (first ++ "/" ++ second) = names first ++ names second := by
  have parted := namesFrom_append_slash [] first.toList second.toList
  simpa [names] using parted

theorem namesFrom_of_notMem (begun : List Char) {text : List Char} (noSlash : '/' ∉ text) :
    namesFrom begun text = [String.ofList (begun.reverse ++ text)] := by
  induction text generalizing begun with
  | nil => simp [namesFrom]
  | cons c text ih =>
      obtain ⟨notSlash, noSlash⟩ := not_or.mp (mt List.mem_cons.mpr noSlash)
      rw [namesFrom, if_neg (Ne.symm notSlash), ih (c :: begun) noSlash]
      simp

theorem namesFrom_ne_nil (begun text : List Char) : namesFrom begun text ≠ [] := by
  induction text generalizing begun with
  | nil => simp [namesFrom]
  | cons c text ih =>
      rw [namesFrom]
      split
      · exact List.cons_ne_nil _ _
      · exact ih (c :: begun)

theorem names_ne_nil (path : String) : names path ≠ [] := namesFrom_ne_nil [] path.toList

/-- The last name of a path, which may be empty. -/
def lastName (path : String) : String := (names path).getLast (names_ne_nil path)

theorem names_eq (path : String) : names path = (names path).dropLast ++ [lastName path] :=
  (List.dropLast_concat_getLast (names_ne_nil path)).symm

theorem getLast?_names (path : String) : (names path).getLast? = some (lastName path) :=
  List.getLast?_eq_some_getLast (names_ne_nil path)

theorem namesFrom_append_of_notMem (begun first : List Char) {ending : List Char}
    (noSlash : '/' ∉ ending) :
    ∃ outer last, namesFrom begun first = outer ++ [String.ofList last] ∧
      namesFrom begun (first ++ ending) = outer ++ [String.ofList (last ++ ending)] := by
  induction first generalizing begun with
  | nil => exact ⟨[], begun.reverse, rfl, namesFrom_of_notMem begun noSlash⟩
  | cons c first ih =>
      rw [List.cons_append, namesFrom, namesFrom]
      split
      · obtain ⟨outer, last, split, splitLonger⟩ := ih []
        exact ⟨_ :: outer, last, by rw [split, List.cons_append],
          by rw [splitLonger, List.cons_append]⟩
      · exact ih (c :: begun)

/-- What is appended to a path without a slash goes on with its last name. -/
theorem names_append_of_notMem (first : String) {ending : String}
    (noSlash : '/' ∉ ending.toList) :
    names (first ++ ending) = (names first).dropLast ++ [lastName first ++ ending] := by
  obtain ⟨outer, last, split, splitLonger⟩ :=
    namesFrom_append_of_notMem [] first.toList noSlash
  have areNames : names first = outer ++ [String.ofList last] := split
  have isLast : lastName first = String.ofList last := by
    have isLast := getLast?_names first
    rw [areNames, List.getLast?_concat] at isLast
    exact (Option.some.inj isLast).symm
  rw [areNames, isLast, List.dropLast_concat, names, String.toList_append, splitLonger,
    String.ofList_append, String.ofList_toList]

/-- What a path ends in without a slash is what its last name ends in. -/
theorem exists_lastName_append (first : String) {ending : String}
    (noSlash : '/' ∉ ending.toList) : ∃ begun, lastName (first ++ ending) = begun ++ ending := by
  refine ⟨lastName first, ?_⟩
  have isLast := getLast?_names (first ++ ending)
  rw [names_append_of_notMem first noSlash, List.getLast?_concat] at isLast
  exact (Option.some.inj isLast).symm

theorem lastName_append_slash (first second : String) :
    lastName (first ++ "/" ++ second) = lastName second := by
  have isLast := getLast?_names (first ++ "/" ++ second)
  rw [names_append_slash, List.getLast?_append, getLast?_names second, Option.some_or] at isLast
  exact (Option.some.inj isLast).symm

/-! ## Joined paths -/

theorem exists_join_eq (outer inner : String) : ∃ before, join outer inner = before ++ inner := by
  unfold join
  split
  · exact ⟨"", by simp⟩
  · split
    · exact ⟨outer, rfl⟩
    · exact ⟨outer ++ "/", rfl⟩

theorem join_ne_empty {inner : String} (notEmpty : inner ≠ "") (outer : String) :
    join outer inner ≠ "" := by
  obtain ⟨before, isJoined⟩ := exists_join_eq outer inner
  rw [isJoined]
  exact fun isEmpty => notEmpty (String.append_eq_empty_iff.mp isEmpty).2

theorem lastName_join_append_slash (outer first second : String) :
    lastName (join outer (first ++ "/" ++ second)) = lastName second := by
  obtain ⟨before, isJoined⟩ := exists_join_eq outer (first ++ "/" ++ second)
  rw [isJoined, ← String.append_assoc, ← String.append_assoc, lastName_append_slash]

theorem isAbsolute_append {inner : String} (notEmpty : inner ≠ "") (more : String) :
    isAbsolute (inner ++ more) = isAbsolute inner := by
  have hasChars : inner.toList ≠ [] := by simpa using notEmpty
  obtain ⟨c, rest, chars⟩ := List.exists_cons_of_ne_nil hasChars
  simp [isAbsolute, chars]

/-- What is appended to the inner path is appended to the joined path. -/
theorem join_append {inner : String} (notEmpty : inner ≠ "") (outer more : String) :
    join outer (inner ++ more) = join outer inner ++ more := by
  unfold join
  rw [isAbsolute_append notEmpty]
  split
  · rfl
  · split
    · rw [String.append_assoc]
    · exact String.append_assoc.symm

/-! ## Beginnings of paths -/

/-- What stands before the inner path when paths are joined. -/
def beginning (outer : String) : String :=
  if outer.isEmpty ∨ outer.toList.getLast? = some '/' then outer else outer ++ "/"

/-- A text that a relative path can go on from. -/
def IsBeginning (text : String) : Prop := text = "" ∨ text.toList.getLast? = some '/'

theorem isBeginning_beginning (outer : String) : IsBeginning (beginning outer) := by
  unfold beginning
  split
  next ends => exact ends.imp_left String.isEmpty_iff.mp
  next => exact .inr (by simp)

theorem join_of_relative {inner : String} (isRelative : isAbsolute inner = false)
    (outer : String) : join outer inner = beginning outer ++ inner := by
  unfold join beginning
  rw [isRelative, if_neg Bool.false_ne_true]
  split <;> rfl

theorem exists_append_slash {text : String} (ends : text.toList.getLast? = some '/') :
    ∃ before, text = before ++ "/" := by
  obtain ⟨before, chars⟩ := List.getLast?_eq_some_iff.mp ends
  exact ⟨String.ofList before, String.toList_injective (by simp [chars])⟩

/-- A path that ends in a slash has an empty name at its end. -/
theorem names_slash (path : String) : names (path ++ "/") = names path ++ [""] := by
  have parted := names_append_slash path ""
  rwa [String.append_empty] at parted

/-- The names of a path that goes on from a beginning are the names in the beginning, without the
empty one at its end, and the names behind it. -/
theorem names_append {first : String} (isBeginning : IsBeginning first) (second : String) :
    names (first ++ second) = (names first).dropLast ++ names second := by
  rcases isBeginning with rfl | ends
  · rw [String.empty_append]
    rfl
  · obtain ⟨before, rfl⟩ := exists_append_slash ends
    rw [names_append_slash, names_slash, List.dropLast_concat]

end Polyview.Path
