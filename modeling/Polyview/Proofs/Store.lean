import Polyview.Store

/-!
# Cells in a store

A new cell holds its text and leaves the others alone, and so does a cell that is written.
-/

namespace Polyview

namespace Store

variable {store : Store}

@[simp]
theorem length_texts_create (text : String) :
    (store.create text).2.texts.length = store.texts.length + 1 := by
  simp [create]

@[simp]
theorem length_texts_write (cell : Cell) (text : String) :
    (store.write cell text).texts.length = store.texts.length := by
  simp [write]

theorem read_create_self (text : String) :
    (store.create text).2.read (store.create text).1 = text := by
  simp [create, read]

theorem read_create_of_ne {cell : Cell} (text : String) (isOld : cell ≠ (store.create text).1) :
    (store.create text).2.read cell = store.read cell := by
  rcases Nat.lt_trichotomy cell.index store.texts.length with inside | same | outside
  · simp [create, read, List.getElem?_append_left inside]
  · exact absurd (by cases cell; simpa [create] using same) isOld
  · have beyond : (store.texts ++ [text]).length ≤ cell.index := by
      rw [List.length_append, List.length_singleton]
      exact outside
    rw [create, read, read, List.getElem?_eq_none beyond,
      List.getElem?_eq_none (Nat.le_of_lt outside)]

theorem read_write_self {cell : Cell} (inside : cell.index < store.texts.length) (text : String) :
    (store.write cell text).read cell = text := by
  simp [write, read, inside]

theorem read_write_of_ne {cell other : Cell} (distinct : cell ≠ other) (text : String) :
    (store.write cell text).read other = store.read other := by
  have places : cell.index ≠ other.index := by
    intro same
    exact distinct (by cases cell; cases other; simpa using same)
  simp [write, read, places]

/-- The store with more cells, which hold some texts. -/
def extend (store : Store) (texts : List String) : Store :=
  { store with texts := store.texts ++ texts }

@[simp]
theorem length_texts_extend (texts : List String) :
    (store.extend texts).texts.length = store.texts.length + texts.length :=
  List.length_append

theorem extend_nil : store.extend [] = store := by
  rw [extend, List.append_nil]

theorem extend_extend (texts more : List String) :
    (store.extend texts).extend more = store.extend (texts ++ more) := by
  rw [extend, extend, extend, List.append_assoc]

theorem read_extend_of_lt {cell : Cell} (inside : cell.index < store.texts.length)
    (texts : List String) : (store.extend texts).read cell = store.read cell := by
  rw [read, read, extend, List.getElem?_append_left inside]

theorem read_extend_add (texts : List String) (index : Nat) :
    (store.extend texts).read ⟨store.texts.length + index⟩ = texts[index]?.getD "" := by
  rw [read, extend, List.getElem?_append_right (Nat.le_add_right _ _), Nat.add_sub_cancel_left]

end Store

end Polyview
