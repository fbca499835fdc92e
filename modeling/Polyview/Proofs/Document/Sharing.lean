import Polyview.Proofs.Document.Placement

/-!
# Fields that share a text

A document may be turned into views more than once, and the fields of all these trees may be edited
in any order. What a tree shows is the sketch of the document with the text last written to each
slot of that tree; trees have nothing to do with each other.
-/

namespace Polyview

/-- Trees that were built from one document, in the order in which they were built. -/
structure Trees where
  views : List View
  store : Store

inductive Event where
  /-- One more tree is built. -/
  | convert
  /-- A text is written through the field at the end of a path in one of the trees. -/
  | edit (tree : Nat) (path : List Nat) (text : String)
  deriving DecidableEq, Repr

/-- The texts last written to the slots of a tree. -/
def Writings := Slot → Option String

namespace Writings

def none : Writings := fun _ => .none

def record (texts : Writings) (slot : Slot) (text : String) : Writings :=
  fun other => if other = slot then some text else texts other

/-- The text of a slot: the one last written to it, or the initial one. -/
def current (texts : Writings) (filled : Filled) : String :=
  (texts filled.slot).getD filled.initial

theorem current_record_self (texts : Writings) {filled other : Filled}
    (same : filled.slot = other.slot) (text : String) :
    (texts.record filled.slot text).current other = text := by
  rw [current, record, if_pos same.symm, Option.getD_some]

theorem current_record_of_ne (texts : Writings) {filled other : Filled}
    (distinct : filled.slot ≠ other.slot) (text : String) :
    (texts.record filled.slot text).current other = texts.current other := by
  rw [current, record, if_neg (Ne.symm distinct), current]

end Writings

def Trees.binding? (trees : Trees) (tree : Nat) (path : List Nat) : Option Binding :=
  trees.views[tree]?.bind fun view => view.binding? path

namespace Document

variable {document : Document}

def after (document : Document) (trees : Trees) : Event → Trees
  | .convert =>
      match document.toView trees.store with
      | .ok (view, store) => ⟨trees.views ++ [view], store⟩
      | .error _ => trees
  | .edit tree path text =>
      match trees.binding? tree path with
      | some binding => { trees with store := binding.write trees.store text }
      | none => trees

/-- The writings to each tree after an event. A new tree has none, and an edit replaces the text of
one slot in one tree. -/
def noted (document : Document) (written : List Writings) : Event → List Writings
  | .convert => written ++ [.none]
  | .edit tree path text =>
      match document.sketch.held? path with
      | some filled =>
          written.modify tree fun texts => texts.record filled.slot text
      | none => written

/-- Trees whose first cells have some numbers, and hold the texts last written to them. -/
structure Follows (document : Document) (starts : List Nat) (written : List Writings)
    (trees : Trees) : Prop where
  views : trees.views =
    starts.map fun start => document.sketch.view (bindingAt (document.place start))
  length : starts.length = written.length
  inside : ∀ start ∈ starts, start + document.texts.length ≤ trees.store.texts.length
  apart : starts.Pairwise fun earlier later => earlier + document.texts.length ≤ later
  read : ∀ {tree start : Nat} {texts : Writings}, starts[tree]? = some start → written[tree]? = some texts →
    ∀ filled ∈ document.texts,
      trees.store.read (document.place start filled.slot) =
        texts.current filled

namespace Follows

variable {starts : List Nat} {written : List Writings} {trees : Trees}

theorem binding? (follows : document.Follows starts written trees) (tree : Nat)
    (path : List Nat) :
    trees.binding? tree path = starts[tree]?.bind fun start =>
      (document.sketch.held? path).map (bindingAt (document.place start)) := by
  rw [Trees.binding?, follows.views, List.getElem?_map]
  cases starts[tree]? with
  | none => rfl
  | some start => exact Sketch.binding?_view _ path document.sketch

/-- Cells of different trees are different, and so are cells of different slots. -/
theorem place_eq_iff (follows : document.Follows starts written trees)
    {tree other start otherStart : Nat} (isStart : starts[tree]? = some start)
    (isOther : starts[other]? = some otherStart) {filled otherFilled : Filled}
    (member : filled ∈ document.texts) (otherMember : otherFilled ∈ document.texts) :
    document.place start filled.slot = document.place otherStart otherFilled.slot ↔
      tree = other ∧ filled.slot = otherFilled.slot := by
  have inside := idxOf_slot_lt member
  have otherInside := idxOf_slot_lt otherMember
  constructor
  · intro same
    -- two trees have their cells in stretches that are apart; within one, slots are distinct
    have sameIndex : start + document.slots.idxOf filled.slot =
        otherStart + document.slots.idxOf otherFilled.slot := congrArg Cell.index same
    have apart := List.pairwise_iff_getElem.mp follows.apart
    obtain ⟨treeInside, rfl⟩ := List.getElem?_eq_some_iff.mp isStart
    obtain ⟨isInside, rfl⟩ := List.getElem?_eq_some_iff.mp isOther
    rcases Nat.lt_trichotomy tree other with before | rfl | after
    · have separate := apart tree other treeInside isInside before
      omega
    · have sameSlot := Nat.add_left_cancel sameIndex
      exact ⟨rfl, (List.idxOf_inj (List.mem_map_of_mem member)).mp sameSlot⟩
    · have separate := apart other tree isInside treeInside after
      omega
  · rintro ⟨rfl, sameSlot⟩
    rw [isStart] at isOther
    rw [Option.some.inj isOther, sameSlot]

theorem index_place_lt (follows : document.Follows starts written trees) {tree start : Nat}
    (isStart : starts[tree]? = some start) {filled : Filled} (member : filled ∈ document.texts) :
    (document.place start filled.slot).index < trees.store.texts.length := by
  have inside := follows.inside start (List.mem_of_getElem? isStart)
  have isText := idxOf_slot_lt member
  change start + document.slots.idxOf filled.slot < _
  omega

/-- A text that is written to a slot of a tree goes to that slot of that tree only. -/
theorem record (follows : document.Follows starts written trees) {tree start : Nat}
    (isStart : starts[tree]? = some start) {filled : Filled} (member : filled ∈ document.texts)
    (text : String) :
    document.Follows starts
      (written.modify tree fun texts => texts.record filled.slot text)
      { trees with store := trees.store.write (document.place start filled.slot) text } := by
  constructor
  case views => exact follows.views
  case length => rw [List.length_modify, follows.length]
  case inside =>
    intro other isOther
    rw [Store.length_texts_write]
    exact follows.inside other isOther
  case apart => exact follows.apart
  case read =>
    intro other otherStart texts isOther isTexts otherFilled otherMember
    rw [List.getElem?_modify, Option.map_eq_map, Option.map_eq_some_iff] at isTexts
    obtain ⟨before, wasBefore, rfl⟩ := isTexts
    have unchanged := follows.read isOther wasBefore otherFilled otherMember
    have sameCell := follows.place_eq_iff isStart isOther member otherMember
    by_cases same : tree = other ∧ filled.slot = otherFilled.slot
    · obtain ⟨rfl, sameSlot⟩ := same
      rw [if_pos rfl, before.current_record_self sameSlot, ← sameCell.mpr ⟨rfl, sameSlot⟩,
        Store.read_write_self (follows.index_place_lt isStart member)]
    · rw [Store.read_write_of_ne (mt sameCell.mp same), unchanged]
      by_cases sameTree : tree = other
      · have distinct : filled.slot ≠ otherFilled.slot := fun sameSlot => same ⟨sameTree, sameSlot⟩
        rw [if_pos sameTree, before.current_record_of_ne distinct]
      · rw [if_neg sameTree]

theorem after_convert (sound : document.IsSound) (trees : Trees) :
    document.after trees .convert =
      ⟨trees.views ++ [document.sketch.view (bindingAt (document.place trees.store.texts.length))],
        trees.store.extend (document.texts.map Filled.initial)⟩ := by
  have converts := (toView_eq_ok_iff trees.store).mpr ⟨sound, rfl⟩
  rw [after, converts]

theorem convert (follows : document.Follows starts written trees) (sound : document.IsSound) :
    document.Follows (starts ++ [trees.store.texts.length]) (document.noted written .convert)
      (document.after trees .convert) := by
  rw [after_convert sound]
  constructor
  case views => rw [List.map_append, follows.views, List.map_singleton]
  case length => simp [noted, follows.length]
  case inside =>
    intro start member
    rw [Store.length_texts_extend, List.length_map]
    rcases List.mem_append.mp member with isOld | isNew
    · exact Nat.le_add_right_of_le (follows.inside start isOld)
    · exact Nat.le_of_eq (by rw [List.mem_singleton.mp isNew])
  case apart =>
    apply List.pairwise_append.mpr
    refine ⟨follows.apart, List.pairwise_singleton _ _, ?_⟩
    intro start isOld newStart isNew
    rw [List.mem_singleton.mp isNew]
    exact follows.inside start isOld
  case read =>
    intro tree start texts isStart isTexts filled member
    rw [noted, List.getElem?_append] at isTexts
    rw [List.getElem?_append, follows.length] at isStart
    split at isStart
    next isOld =>
      rw [if_pos isOld] at isTexts
      rw [Store.read_extend_of_lt (follows.index_place_lt isStart member)]
      exact follows.read isStart isTexts filled member
    next isNew =>
      rw [if_neg isNew] at isTexts
      obtain rfl := List.mem_singleton.mp (List.mem_of_getElem? isStart)
      obtain rfl := List.mem_singleton.mp (List.mem_of_getElem? isTexts)
      exact read_place_of_mem trees.store member

theorem edit (follows : document.Follows starts written trees) (sound : document.IsSound)
    (tree : Nat) (path : List Nat) (text : String) :
    document.Follows starts (document.noted written (.edit tree path text))
      (document.after trees (.edit tree path text)) := by
  rw [after, noted, follows.binding?]
  cases isHeld : document.sketch.held? path with
  | none =>
      have noField : (starts[tree]?.bind fun start =>
          Option.map (bindingAt (document.place start)) none) = none := by
        cases starts[tree]? <;> rfl
      rw [noField]
      exact follows
  | some filled =>
      cases isStart : starts[tree]? with
      | none =>
          have beyond : written.length ≤ tree := by
            rw [← follows.length]
            exact List.getElem?_eq_none_iff.mp isStart
          simp only [List.modify_eq_self beyond]
          exact follows
      | some start =>
          exact follows.record isStart (mem_texts_of_held? sound isHeld) text

theorem shown (follows : document.Follows starts written trees) (sound : document.IsSound) :
    trees.views.map (View.shown trees.store) =
      written.map fun texts => document.sketch.map texts.current := by
  apply List.ext_getElem?
  intro tree
  rw [follows.views, List.map_map, List.getElem?_map, List.getElem?_map]
  cases isStart : starts[tree]? with
  | none =>
      have beyond := follows.length ▸ List.getElem?_eq_none_iff.mp isStart
      rw [List.getElem?_eq_none_iff.mpr beyond]
      rfl
  | some start =>
      have inside := follows.length ▸ (List.getElem?_eq_some_iff.mp isStart).1
      have isTexts := List.getElem?_eq_getElem inside
      rw [isTexts, Option.map_some, Option.map_some, Function.comp_apply, Sketch.shown_view]
      congr 1
      apply Sketch.map_congr
      intro path filled isHeld
      exact follows.read isStart isTexts filled (mem_texts_of_held? sound isHeld)

theorem perform (follows : document.Follows starts written trees) (sound : document.IsSound)
    (event : Event) :
    ∃ laterStarts, document.Follows laterStarts (document.noted written event)
      (document.after trees event) := by
  cases event with
  | convert => exact ⟨_, follows.convert sound⟩
  | edit tree path text => exact ⟨starts, follows.edit sound tree path text⟩

theorem run (follows : document.Follows starts written trees) (sound : document.IsSound)
    (events : List Event) :
    ∃ laterStarts, document.Follows laterStarts (events.foldl document.noted written)
      (events.foldl document.after trees) := by
  induction events generalizing starts written trees with
  | nil => exact ⟨starts, follows⟩
  | cons event rest ih =>
      obtain ⟨laterStarts, later⟩ := follows.perform sound event
      exact ih later

/-- Two fields have one binding exactly if they are in the same tree and hold the same slot. -/
theorem binding_eq_iff (follows : document.Follows starts written trees)
    (sound : document.IsSound) {tree other : Nat} {path otherPath : List Nat}
    {binding otherBinding : Binding} (isBound : trees.binding? tree path = some binding)
    (isOther : trees.binding? other otherPath = some otherBinding) :
    binding = otherBinding ↔ tree = other ∧ (path = otherPath ∨ ∃ name,
      document.root.fieldName? path = some name ∧
        document.root.fieldName? otherPath = some name) := by
  rw [follows.binding?, Option.bind_eq_some_iff] at isBound isOther
  obtain ⟨start, isStart, isField⟩ := isBound
  obtain ⟨otherStart, isOtherStart, isOtherField⟩ := isOther
  obtain ⟨filled, isHeld, rfl⟩ := Option.map_eq_some_iff.mp isField
  obtain ⟨otherFilled, isOtherHeld, rfl⟩ := Option.map_eq_some_iff.mp isOtherField
  have member := mem_texts_of_held? sound isHeld
  have otherMember := mem_texts_of_held? sound isOtherHeld
  rw [bindingAt, bindingAt, Binding.cell.injEq, ← slot_eq_iff isHeld isOtherHeld]
  exact follows.place_eq_iff isStart isOtherStart member otherMember

theorem nodeCount (follows : document.Follows starts written trees) {view : View}
    (member : view ∈ trees.views) : view.nodeCount = document.root.nodeCount := by
  rw [follows.views] at member
  obtain ⟨start, _, rfl⟩ := List.mem_map.mp member
  exact Node.nodeCount_view_sketch _ document.root

end Follows

theorem follows_nil (document : Document) (store : Store) :
    document.Follows [] [] ⟨[], store⟩ := by
  constructor <;> simp

/-- All trees that are built from a document show its sketch, node for node, and each field of a
tree shows the text last written to its slot in that tree. Two fields have one binding exactly if
they are in one tree and are the same field or refer to the same name. -/
theorem trees_share_named_texts {document : Document} {start later : Store} {view : View}
    (converts : document.toView start = .ok (view, later)) (events : List Event) :
    let trees := events.foldl document.after ⟨[view], later⟩
    let written := events.foldl document.noted [.none]
    trees.views.map (View.shown trees.store) =
        written.map (fun texts => document.sketch.map texts.current) ∧
      (∀ tree ∈ trees.views, tree.nodeCount = document.root.nodeCount) ∧
      ∀ (tree other : Nat) (path otherPath : List Nat) (binding otherBinding : Binding),
        trees.binding? tree path = some binding →
        trees.binding? other otherPath = some otherBinding →
        (binding = otherBinding ↔ tree = other ∧ (path = otherPath ∨ ∃ name,
          document.root.fieldName? path = some name ∧
            document.root.fieldName? otherPath = some name)) := by
  have sound := ((toView_eq_ok_iff start).mp converts).1
  have first := (document.follows_nil start).convert sound
  have isFirst : document.after ⟨[], start⟩ .convert = ⟨[view], later⟩ := by
    rw [after, converts]
    rfl
  rw [isFirst] at first
  obtain ⟨starts, follows⟩ := first.run sound events
  refine ⟨follows.shown sound, fun tree member => follows.nodeCount member, ?_⟩
  intro tree other path otherPath binding otherBinding isBound isOther
  exact follows.binding_eq_iff sound isBound isOther

/-- A form with two fields for one named text and a field of its own. -/
def sampleForm : Document where
  state := ⟨[("q", "one")], List.pairwise_singleton _ _⟩
  root := .stack [.field "A" (some "q") "", .stack [.field "B" (some "q") ""],
    .field "C" none "own", .text "" (some "q")]

/-- Writing through one field shows in the other one of the name, and in no other tree. -/
theorem trees_share_named_texts_of_form :
    let events : List Event := [.edit 0 [0] "two", .convert, .edit 1 [2] "three"]
    ∃ view later, sampleForm.toView .empty = .ok (view, later) ∧
      let trees := events.foldl sampleForm.after ⟨[view], later⟩
      trees.views.map (View.shown trees.store) =
          [.stack [.field "A" "two", .stack [.field "B" "two"], .field "C" "own", .label "one"],
            .stack [.field "A" "one", .stack [.field "B" "one"], .field "C" "three",
              .label "one"]] ∧
        trees.binding? 0 [0] = trees.binding? 0 [1, 0] ∧
        trees.binding? 0 [0] ≠ trees.binding? 1 [0] := by
  have converts : sampleForm.toView .empty = .ok
      (.stack [.field "A" (.cell ⟨0⟩), .stack [.field "B" (.cell ⟨0⟩)], .field "C" (.cell ⟨1⟩),
        .label "one"], ⟨["one", "own"], []⟩) := rfl
  obtain ⟨shown, -, shared⟩ :=
    trees_share_named_texts converts [.edit 0 [0] "two", .convert, .edit 1 [2] "three"]
  have sameName := shared 0 0 [0] [1, 0] (.cell ⟨0⟩) (.cell ⟨0⟩) rfl rfl
  have otherTree := shared 0 1 [0] [0] (.cell ⟨0⟩) (.cell ⟨2⟩) rfl rfl
  refine ⟨_, _, converts, shown, ?_, ?_⟩
  · exact congrArg some (sameName.mpr ⟨rfl, .inr ⟨"q", rfl, rfl⟩⟩)
  · intro same
    have sameTree := (otherTree.mp (Option.some.inj same)).1
    cases sameTree

end Document

end Polyview
