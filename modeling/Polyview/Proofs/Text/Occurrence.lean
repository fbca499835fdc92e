import Mathlib.Data.List.Infix

/-!
# How often a text stands in another one

The places of a text in a longer one are counted piece by piece. They can be counted apart in two
pieces if no place reaches from the first into the second one: because the second one begins with a
character that the sought text does not have, or because no end of the first one begins it.
-/

namespace Polyview.Text

/-- The number of places at which one text stands in another one. -/
def occurrences (sought : List Char) : List Char → Nat
  | [] => 0
  | c :: rest => (if sought <+: c :: rest then 1 else 0) + occurrences sought rest

variable {sought : List Char}

theorem occurrences_cons (c : Char) (rest : List Char) :
    occurrences sought (c :: rest) =
      (if sought <+: c :: rest then 1 else 0) + occurrences sought rest :=
  rfl

theorem occurrences_eq_zero_iff (nonempty : sought ≠ []) (text : List Char) :
    occurrences sought text = 0 ↔ ¬ sought <:+: text := by
  induction text with
  | nil => simp [occurrences, nonempty]
  | cons c rest ih =>
      rw [occurrences_cons, Nat.add_eq_zero_iff, ih, List.infix_cons_iff, not_or]
      simp

/-! ## Before a character that is not sought -/

theorem prefix_append_cons_iff {x : Char} (notSought : x ∉ sought) (text rest : List Char) :
    sought <+: text ++ x :: rest ↔ sought <+: text := by
  constructor
  · intro begins
    rcases List.prefix_or_prefix_of_prefix begins (List.prefix_append text (x :: rest)) with
      inside | covers
    · exact inside
    · obtain ⟨more, rfl⟩ := covers
      rw [List.prefix_append_right_inj] at begins
      cases more with
      | nil => simp
      | cons y more =>
          obtain ⟨rfl, -⟩ := List.cons_prefix_cons.mp begins
          simp at notSought
  · intro begins
    exact begins.trans (List.prefix_append text (x :: rest))

/-- A text begins with a character that what is sought does not have. -/
def BeginsApart (sought : List Char) : List Char → Prop
  | [] => False
  | c :: _ => c ∉ sought

instance (sought : List Char) : DecidablePred (BeginsApart sought)
  | [] => inferInstanceAs (Decidable False)
  | c :: _ => inferInstanceAs (Decidable (c ∉ sought))

theorem occurrences_append_of_beginsApart {rest : List Char} (apart : BeginsApart sought rest)
    (text : List Char) :
    occurrences sought (text ++ rest) = occurrences sought text + occurrences sought rest := by
  cases rest with
  | nil => cases apart
  | cons x rest =>
      induction text with
      | nil => simp [occurrences]
      | cons c text ih =>
          have begins := prefix_append_cons_iff apart (c :: text) rest
          rw [List.cons_append] at begins
          rw [List.cons_append, occurrences_cons c, ih, occurrences_cons c text]
          simp only [begins, Nat.add_assoc]

/-! ## Behind an end that begins nothing -/

/-- No end of a text is the beginning of what is sought, unless it is all of it. -/
def EndsApart (sought text : List Char) : Prop :=
  ∀ ending ∈ text.tails, ending <+: sought → ending = [] ∨ ending = sought

instance (sought text : List Char) : Decidable (EndsApart sought text) :=
  inferInstanceAs (Decidable (∀ _ ∈ _, _))

theorem EndsApart.prefix_append_iff {c : Char} {text : List Char}
    (apart : EndsApart sought (c :: text)) (rest : List Char) :
    sought <+: c :: text ++ rest ↔ sought <+: c :: text := by
  constructor
  · intro begins
    rcases List.prefix_or_prefix_of_prefix begins (List.prefix_append (c :: text) rest) with
      inside | covers
    · exact inside
    · rcases apart _ (by simp) covers with isNil | isSought
      · cases isNil
      · rw [isSought]
  · intro begins
    exact begins.trans (List.prefix_append _ rest)

theorem occurrences_append_of_endsApart {text : List Char} (apart : EndsApart sought text)
    (rest : List Char) :
    occurrences sought (text ++ rest) = occurrences sought text + occurrences sought rest := by
  induction text with
  | nil => simp [occurrences]
  | cons c text ih =>
      have later : EndsApart sought text := fun ending member =>
        apart ending (by simpa using .inr (List.mem_tails _ _ |>.mp member))
      have begins := apart.prefix_append_iff rest
      rw [List.cons_append] at begins
      rw [List.cons_append, occurrences_cons, ih later, occurrences_cons]
      simp only [begins, Nat.add_assoc]

/-! ## Before the last character of what is sought -/

/-- Where the last character of what is sought comes for the first time, the text before it decides
whether this is a place. -/
theorem occurrences_append_last {stem : List Char} {x : Char} (notStem : x ∉ stem)
    {text : List Char} (notText : x ∉ text) (other : ¬ stem <:+ text) (rest : List Char) :
    occurrences (stem ++ [x]) (text ++ x :: rest) = occurrences (stem ++ [x]) rest := by
  have upTo (before behind : List Char) (notBefore : x ∉ before) :
      (before ++ x :: behind).takeWhile (· != x) = before := by
    rw [List.takeWhile_append_of_pos]
    · simp
    · intro c member
      rw [bne_iff_ne]
      rintro rfl
      exact notBefore member
  have noPlace (text : List Char) (notText : x ∉ text) (other : stem ≠ text) :
      ¬ stem ++ [x] <+: text ++ x :: rest := by
    rintro ⟨more, same⟩
    have stems := congrArg (List.takeWhile (· != x)) same
    rw [List.append_assoc, List.singleton_append, upTo _ _ notStem, upTo _ _ notText] at stems
    exact other stems
  induction text with
  | nil =>
      have notHere := noPlace [] notText fun isNil => other (isNil ▸ List.suffix_refl _)
      rw [List.nil_append] at notHere ⊢
      rw [occurrences_cons, if_neg notHere, Nat.zero_add]
  | cons c text ih =>
      have notHere := noPlace (c :: text) notText fun isWhole =>
        other (isWhole ▸ List.suffix_refl _)
      have notLater : ¬ stem <:+ text := fun later => other (later.trans (List.suffix_cons c text))
      rw [List.cons_append] at notHere ⊢
      rw [occurrences_cons, if_neg notHere, Nat.zero_add,
        ih (fun member => notText (List.mem_cons_of_mem c member)) notLater]

end Polyview.Text
