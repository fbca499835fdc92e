import Mathlib.Tactic.SplitIfs
import Polyview.Json.Reader
import Polyview.Proofs.Result

/-!
# How deep values are nested

The reader opens only so many lists and objects inside one another. What it has read is therefore
nested no deeper than it was allowed to go.
-/

namespace Polyview.Json

namespace Value

mutual

/-- How many lists and objects are open at the deepest place of a value. -/
def nesting : Value → Nat
  | .list items => nestingOfItems items + 1
  | .object members => nestingOfMembers members + 1
  | .null | .boolean _ | .number _ | .text _ => 0

/-- The nesting of the deepest item. -/
def nestingOfItems : List Value → Nat
  | [] => 0
  | item :: rest => max item.nesting (nestingOfItems rest)

/-- The nesting of the deepest member. -/
def nestingOfMembers : List (String × Value) → Nat
  | [] => 0
  | (_, value) :: rest => max value.nesting (nestingOfMembers rest)

end

end Value

/-- What the three readers find in so many steps is nested no deeper than they may go. -/
structure NestsWithin (fuel : Nat) : Prop where
  value : ∀ {depth : Nat} {cursor after : Cursor} {value : Value},
    readValueWithin fuel depth cursor = .ok (value, after) → value.nesting ≤ depth
  items : ∀ {depth : Nat} {isFirst : Bool} {cursor after : Cursor} {items : List Value},
    readItems fuel depth isFirst cursor = .ok (items, after) →
      Value.nestingOfItems items ≤ depth
  members : ∀ {depth : Nat} {isFirst : Bool} {cursor after : Cursor}
    {members : List (String × Value)},
    readMembers fuel depth isFirst cursor = .ok (members, after) →
      Value.nestingOfMembers members ≤ depth

section Steps

variable {fuel depth : Nat} {isFirst : Bool} {cursor after : Cursor}

theorem nesting_le_of_readValueWithin_succ (bounds : NestsWithin fuel) {value : Value}
    (read : readValueWithin (fuel + 1) depth cursor = .ok (value, after)) :
    value.nesting ≤ depth := by
  unfold readValueWithin at read
  dsimp only at read
  split at read
  · cases read
  · split_ifs at read with null yes no negative natural text list object
    -- The three words.
    iterate 3
      · obtain ⟨_, -, read⟩ := bind_eq_ok.1 read
        cases read
        exact Nat.zero_le depth
    -- Numbers of both signs, and texts.
    iterate 3
      · obtain ⟨⟨_, _⟩, -, read⟩ := bind_eq_ok.1 read
        cases read
        exact Nat.zero_le depth
    · cases depth with
      | zero => cases read
      | succ depth =>
          obtain ⟨⟨items, _⟩, itemsRead, read⟩ := bind_eq_ok.1 read
          cases read
          exact Nat.succ_le_succ (bounds.items itemsRead)
    · cases depth with
      | zero => cases read
      | succ depth =>
          obtain ⟨⟨members, _⟩, membersRead, read⟩ := bind_eq_ok.1 read
          cases read
          exact Nat.succ_le_succ (bounds.members membersRead)

theorem nestingOfItems_le_of_readItems_succ (bounds : NestsWithin fuel) {items : List Value}
    (read : readItems (fuel + 1) depth isFirst cursor = .ok (items, after)) :
    Value.nestingOfItems items ≤ depth := by
  rw [readItems] at read
  obtain ⟨next, -, read⟩ := bind_eq_ok.1 read
  cases next with
  | none =>
      cases read
      simp [Value.nestingOfItems]
  | some cursor =>
      obtain ⟨⟨item, cursor⟩, itemRead, read⟩ := bind_eq_ok.1 read
      obtain ⟨⟨items, cursor⟩, itemsRead, read⟩ := bind_eq_ok.1 read
      cases read
      exact Nat.max_le.2 ⟨bounds.value itemRead, bounds.items itemsRead⟩

theorem nestingOfMembers_le_of_readMembers_succ (bounds : NestsWithin fuel)
    {members : List (String × Value)}
    (read : readMembers (fuel + 1) depth isFirst cursor = .ok (members, after)) :
    Value.nestingOfMembers members ≤ depth := by
  rw [readMembers] at read
  obtain ⟨next, -, read⟩ := bind_eq_ok.1 read
  cases next with
  | none =>
      cases read
      simp [Value.nestingOfMembers]
  | some named =>
      obtain ⟨colonAfter, -, read⟩ := bind_eq_ok.1 read
      obtain ⟨⟨item, cursor⟩, valueRead, read⟩ := bind_eq_ok.1 read
      obtain ⟨⟨members, cursor⟩, membersRead, read⟩ := bind_eq_ok.1 read
      cases read
      exact Nat.max_le.2 ⟨bounds.value valueRead, bounds.members membersRead⟩

end Steps

theorem nestsWithin (fuel : Nat) : NestsWithin fuel := by
  induction fuel with
  | zero =>
      constructor
      · intro depth cursor after value read
        simp [readValueWithin] at read
      · intro depth isFirst cursor after items read
        simp [readItems] at read
      · intro depth isFirst cursor after members read
        simp [readMembers] at read
  | succ fuel ih =>
      constructor
      · exact nesting_le_of_readValueWithin_succ ih
      · exact nestingOfItems_le_of_readItems_succ ih
      · exact nestingOfMembers_le_of_readMembers_succ ih

theorem nesting_le_of_readValue {depth : Nat} {cursor after : Cursor} {value : Value}
    (read : readValue depth cursor = .ok (value, after)) : value.nesting ≤ depth :=
  (nestsWithin _).value read

theorem nestingOfItems_le_of_readItems {fuel depth : Nat} {isFirst : Bool} {cursor after : Cursor}
    {items : List Value} (read : readItems fuel depth isFirst cursor = .ok (items, after)) :
    Value.nestingOfItems items ≤ depth :=
  (nestsWithin _).items read

end Polyview.Json
