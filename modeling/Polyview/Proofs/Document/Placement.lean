import Polyview.Proofs.Document.Slots
import Polyview.Proofs.Result
import Polyview.Proofs.Store

/-!
# Cells for the texts of a document

The texts of a document get new cells in a row, so the place of a text in the list of all texts
gives its cell. With that, the views of a document are its sketch with cells for the slots.
-/

namespace Polyview

/-- Cells that follow each other from a number on. -/
def AreInRow (start : Nat) (cells : List Cell) : Prop :=
  ∀ (index : Nat) (inside : index < cells.length), cells[index] = ⟨start + index⟩

theorem AreInRow.head {start : Nat} {cell : Cell} {cells : List Cell}
    (inRow : AreInRow start (cell :: cells)) : cell = ⟨start⟩ :=
  inRow 0 (Nat.zero_lt_succ _)

theorem AreInRow.left {start : Nat} {cells more : List Cell}
    (inRow : AreInRow start (cells ++ more)) : AreInRow start cells := by
  intro index inside
  have place := inRow index (by rw [List.length_append]; omega)
  rwa [List.getElem_append_left inside] at place

theorem AreInRow.right {start : Nat} (cells : List Cell) {more : List Cell}
    (inRow : AreInRow start (cells ++ more)) : AreInRow (start + cells.length) more := by
  intro index inside
  have place := inRow (cells.length + index) (by rw [List.length_append]; omega)
  rw [List.getElem_append_right (Nat.le_add_right _ _)] at place
  simpa only [Nat.add_sub_cancel_left, Nat.add_assoc] using place

theorem AreInRow.tail {start : Nat} {cell : Cell} {cells : List Cell}
    (inRow : AreInRow start (cell :: cells)) : AreInRow (start + 1) cells :=
  inRow.right [cell]

/-- The binding to the cell that a field's text has got. -/
def bindingAt (place : Slot → Cell) (filled : Filled) : Binding := .cell (place filled.slot)

namespace Node

def ownCells (place : Slot → Cell) (owned : List (List Nat × String)) : List Cell :=
  owned.map fun own => place (.own own.1)

theorem ownCells_ownTextsFrom_cons (place : Slot → Cell) (start : Nat) (node : Node)
    (rest : List Node) :
    ownCells place (ownTextsFrom start (node :: rest)) =
      ownCells (place ∘ Slot.below start) node.ownTexts ++
        ownCells place (ownTextsFrom (start + 1) rest) := by
  rw [ownTextsFrom, ownCells, List.map_append, List.map_map]
  rfl

/-- A cell table gives the cells of its names, and these cells hold the initial values. -/
structure Agrees (cells : CellTable) (place : Slot → Cell) (names : List String)
    (initial : String → String) (store : Store) : Prop where
  lookup : ∀ name, cells.lookup name = if name ∈ names then some (place (.named name)) else none
  inside : ∀ name ∈ names, (place (.named name)).index < store.texts.length
  read : ∀ name ∈ names, store.read (place (.named name)) = initial name

variable {cells : CellTable} {place : Slot → Cell} {names : List String}
  {initial : String → String} {store : Store}

theorem Agrees.extend (agrees : Agrees cells place names initial store) (texts : List String) :
    Agrees cells place names initial (store.extend texts) where
  lookup := agrees.lookup
  inside name known := by
    rw [Store.length_texts_extend]
    exact Nat.lt_add_right _ (agrees.inside name known)
  read name known := by
    rw [Store.read_extend_of_lt (agrees.inside name known), agrees.read name known]

theorem Agrees.below (agrees : Agrees cells place names initial store) (position : Nat) :
    Agrees cells (place ∘ Slot.below position) names initial store :=
  ⟨agrees.lookup, agrees.inside, agrees.read⟩

theorem Agrees.cellFor_of_mem (agrees : Agrees cells place names initial store) {name : String}
    (known : name ∈ names) (referrer : Referrer) :
    cellFor cells name referrer = .ok (place (.named name)) := by
  rw [cellFor, agrees.lookup, if_pos known]

theorem Agrees.cellFor_of_notMem (agrees : Agrees cells place names initial store)
    {name : String} (unknown : name ∉ names) (referrer : Referrer) :
    cellFor cells name referrer = .error (.unknownName name referrer) := by
  rw [cellFor, agrees.lookup, if_neg unknown]

mutual

/-- A node has views exactly if its references are sound, and then its sketch tells them. -/
theorem toView_eq_ok_iff : ∀ (node : Node) {place : Slot → Cell} {store : Store},
    Agrees cells place names initial store →
    AreInRow store.texts.length (ownCells place node.ownTexts) →
    ∀ result, node.toView cells store = .ok result ↔ node.IsSound names ∧
      result = ((node.sketch initial).view (bindingAt place),
        store.extend (node.ownTexts.map Prod.snd))
  | .text content none, place, store, _, _, result => by
      simp [toView, IsSound, sketch, Sketch.view, ownTexts, Store.extend_nil, eq_comm]
  | .text content (some name), place, store, agrees, _, result => by
      by_cases isEmpty : content = ""
      · by_cases known : name ∈ names
        · simp [toView, IsSound, sketch, Sketch.view, ownTexts, Store.extend_nil, eq_comm, isEmpty,
            known, agrees.cellFor_of_mem known, View.labelFrom, Binding.read, agrees.read name known]
        · simp [toView, IsSound, isEmpty, known, agrees.cellFor_of_notMem known, bind_eq_ok]
      · simp [toView, IsSound, isEmpty]
  | .field title none value, place, store, _, inRow, result => by
      have newCell : place (.own []) = (store.create value).1 := inRow.head
      simp [toView, IsSound, sketch, Sketch.view, ownTexts, bindingAt, newCell, Store.create,
        Store.extend, eq_comm]
  | .field title (some name) value, place, store, agrees, _, result => by
      by_cases isEmpty : value = ""
      · by_cases known : name ∈ names
        · simp [toView, IsSound, sketch, Sketch.view, ownTexts, Store.extend_nil, eq_comm, isEmpty,
            known, agrees.cellFor_of_mem known, bindingAt]
        · simp [toView, IsSound, isEmpty, known, agrees.cellFor_of_notMem known, bind_eq_ok]
      · simp [toView, IsSound, isEmpty]
  | .stack children, place, store, agrees, inRow, result => by
      rw [toView, bind_eq_ok]
      simp only [toViews_eq_ok_iff 0 children agrees inRow]
      constructor
      · rintro ⟨_, ⟨sound, rfl⟩, rest⟩
        cases rest
        exact ⟨sound, rfl⟩
      · rintro ⟨sound, rfl⟩
        exact ⟨_, ⟨sound, rfl⟩, rfl⟩
  | .description source body, place, store, _, _, result => by
      simp [toView, IsSound, sketch, Sketch.view, ownTexts, Store.extend_nil, eq_comm]

theorem toViews_eq_ok_iff (start : Nat) : ∀ (nodes : List Node) {place : Slot → Cell}
    {store : Store}, Agrees cells place names initial store →
    AreInRow store.texts.length (ownCells place (ownTextsFrom start nodes)) →
    ∀ result, toViews cells store nodes = .ok result ↔ AreSound names nodes ∧
      result = (Sketch.viewAll (bindingAt place) (sketchesFrom initial start nodes),
        store.extend ((ownTextsFrom start nodes).map Prod.snd))
  | [], place, store, _, _, result => by
      simp [toViews, AreSound, sketchesFrom, Sketch.viewAll, ownTextsFrom, Store.extend_nil,
        eq_comm]
  | node :: rest, place, store, agrees, inRow, result => by
      rw [ownCells_ownTextsFrom_cons] at inRow
      have first := toView_eq_ok_iff node (agrees.below start) inRow.left
      have later := toViews_eq_ok_iff (start + 1) rest
        (agrees.extend (node.ownTexts.map Prod.snd))
        (by simpa [ownCells] using inRow.right _)
      -- the first child has its paths below `start`, so its cells are those of the slots there
      have firstView : ((node.sketch initial).map (Filled.below start)).view (bindingAt place) =
          (node.sketch initial).view (bindingAt (place ∘ Slot.below start)) :=
        Sketch.view_map _ _ _
      have texts : (ownTextsFrom start (node :: rest)).map Prod.snd =
          node.ownTexts.map Prod.snd ++ (ownTextsFrom (start + 1) rest).map Prod.snd := by
        rw [ownTextsFrom, List.map_append, List.map_map]
        rfl
      rw [toViews, bind_eq_ok, sketchesFrom, Sketch.viewAll, firstView, texts,
        ← Store.extend_extend]
      simp only [first]
      constructor
      · rintro ⟨_, ⟨sound, rfl⟩, goesOn⟩
        obtain ⟨_, isRest, done⟩ := bind_eq_ok.mp goesOn
        obtain ⟨restSound, rfl⟩ := (later _).mp isRest
        cases done
        exact ⟨⟨sound, restSound⟩, rfl⟩
      · rintro ⟨⟨sound, restSound⟩, rfl⟩
        refine ⟨_, ⟨sound, rfl⟩, ?_⟩
        rw [(later _).mpr ⟨restSound, rfl⟩]
        rfl

end

end Node

theorem lookup_map_self {α : Type} (names : List String) (image : String → α) (name : String) :
    (names.map fun other => (other, image other)).lookup name =
      if name ∈ names then some (image name) else none := by
  induction names with
  | nil => rfl
  | cons first rest ih =>
      rw [List.map_cons, List.lookup_cons, ih]
      by_cases same : name = first
      · simp [same]
      · simp [beq_false_of_ne same, same]

namespace Document

variable {document : Document}

theorem createCells_eq (place : Slot → Cell) (entries : List (String × String)) (store : Store)
    (inRow : AreInRow store.texts.length (entries.map fun entry => place (.named entry.1))) :
    createCells store entries =
      ((entries.map Prod.fst).map fun name => (name, place (.named name)),
        store.extend (entries.map Prod.snd)) := by
  induction entries generalizing store with
  | nil => simp [createCells, Store.extend_nil]
  | cons entry rest ih =>
      have newCell : place (.named entry.1) = (store.create entry.2).1 := inRow.head
      have later := ih (store.create entry.2).2
        (by rw [Store.length_texts_create]; exact inRow.tail)
      simp only [createCells, later, List.map_cons, newCell]
      simp [Store.create, Store.extend]

/-- The cell of a slot, where the first text of the document gets the cell with a number. -/
def place (document : Document) (start : Nat) (slot : Slot) : Cell :=
  ⟨start + document.slots.idxOf slot⟩

theorem areInRow_place (document : Document) (start : Nat) :
    AreInRow start (document.slots.map (document.place start)) := by
  intro index inside
  rw [List.getElem_map, place, document.nodup_slots.idxOf_getElem]

theorem idxOf_slot_lt {filled : Filled} (member : filled ∈ document.texts) :
    document.slots.idxOf filled.slot < document.texts.length := by
  have isSlot : filled.slot ∈ document.slots := List.mem_map_of_mem member
  simpa only [slots, List.length_map] using List.idxOf_lt_length_of_mem isSlot

/-- Every text is in its cell once the document has got its cells. -/
theorem read_place_of_mem (store : Store) {filled : Filled} (member : filled ∈ document.texts) :
    (store.extend (document.texts.map Filled.initial)).read
      (document.place store.texts.length filled.slot) = filled.initial := by
  obtain ⟨index, inside, rfl⟩ := List.getElem_of_mem member
  have isSlot : document.slots.idxOf document.texts[index].slot = index := by
    have found := document.nodup_slots.idxOf_getElem index (by simpa [slots] using inside)
    simpa only [slots, List.getElem_map] using found
  rw [place, isSlot, Store.read_extend_add, List.getElem?_map, List.getElem?_eq_getElem inside]
  rfl

theorem map_initial_texts (document : Document) :
    document.texts.map Filled.initial =
      document.state.entries.map Prod.snd ++ document.root.ownTexts.map Prod.snd := by
  rw [texts, List.map_append, List.map_map, List.map_map]
  rfl

theorem index_place_named_lt (store : Store) {name : String} (known : name ∈ document.names) :
    (document.place store.texts.length (.named name)).index <
      (store.extend (document.state.entries.map Prod.snd)).texts.length := by
  have isFirst : Slot.named name ∈ document.names.map Slot.named := List.mem_map_of_mem known
  have before := List.idxOf_lt_length_of_mem isFirst
  rw [place, slots_eq, List.idxOf_append_of_mem isFirst, Store.length_texts_extend]
  simpa [names] using before

theorem agrees_created (document : Document) (store : Store) :
    Node.Agrees (document.names.map fun name =>
        (name, document.place store.texts.length (.named name)))
      (document.place store.texts.length) document.names document.initial
      (store.extend (document.state.entries.map Prod.snd)) where
  lookup := lookup_map_self document.names _
  inside _ known := index_place_named_lt store known
  read name known := by
    obtain ⟨entry, member, rfl⟩ := List.mem_map.mp known
    have isText : (⟨.named entry.1, entry.2⟩ : Filled) ∈ document.texts :=
      List.mem_append_left _ (List.mem_map_of_mem member)
    have isRead := read_place_of_mem store isText
    rw [map_initial_texts, ← Store.extend_extend,
      Store.read_extend_of_lt (index_place_named_lt store known)] at isRead
    rw [isRead, initial_of_mem member]

/-- A document has views exactly if its references are sound, and then its sketch tells them. -/
theorem toView_eq_ok_iff (store : Store) {result : View × Store} :
    document.toView store = .ok result ↔ document.IsSound ∧
      result = (document.sketch.view (bindingAt (document.place store.texts.length)),
        store.extend (document.texts.map Filled.initial)) := by
  have inRow := document.areInRow_place store.texts.length
  rw [slots_eq, List.map_append] at inRow
  have created := createCells_eq (document.place store.texts.length)
    document.state.entries store
    (by simpa only [names, List.map_map, Function.comp_def] using inRow.left)
  have ownRow : AreInRow (store.extend (document.state.entries.map Prod.snd)).texts.length
      (Node.ownCells (document.place store.texts.length) document.root.ownTexts) := by
    simpa [names, Node.ownCells, Function.comp_def] using inRow.right _
  rw [toView, created, map_initial_texts, ← Store.extend_extend]
  exact Node.toView_eq_ok_iff document.root (document.agrees_created store) ownRow result

end Document

end Polyview
