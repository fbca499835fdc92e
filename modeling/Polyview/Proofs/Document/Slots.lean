import Mathlib.Data.List.Nodup
import Polyview.Document.Views
import Polyview.Proofs.Sketch

/-!
# What the fields of a document edit

A field of a document edits a named text or one of its own. The sketch of a document says which, and
says it without a store: all fields of a name have one slot, and every other field has a slot that
is told by its place in the tree.
-/

namespace Polyview

/-- A text that a document has fields for. -/
inductive Slot where
  | named (name : String)
  /-- The text of the field at the end of a path. -/
  | own (path : List Nat)
  deriving DecidableEq, Repr

theorem Slot.named_injective : Function.Injective Slot.named := by
  rintro name other ⟨⟩
  rfl

theorem Slot.own_injective : Function.Injective Slot.own := by
  rintro path other ⟨⟩
  rfl

/-- A slot of a child, as seen from the stack above. -/
def Slot.below (position : Nat) : Slot → Slot
  | .named name => .named name
  | .own path => .own (position :: path)

/-- A slot and the text that is in it at first. -/
structure Filled where
  slot : Slot
  initial : String
  deriving DecidableEq, Repr

def Filled.below (position : Nat) (filled : Filled) : Filled :=
  ⟨filled.slot.below position, filled.initial⟩

namespace Node

variable (initial : String → String)

mutual

/-- The sketch of a node, with the initial values of the named texts. -/
def sketch : Node → Sketch Filled
  | .text content none => .label content
  | .text _ (some name) => .label (initial name)
  | .field title none value => .field title ⟨.own [], value⟩
  | .field title (some name) _ => .field title ⟨.named name, initial name⟩
  | .stack children => .stack (sketchesFrom 0 children)
  | .description source body =>
      .description (body.getD (bodyOf source)) (StateVariable.scan source)

def sketchesFrom (position : Nat) : List Node → List (Sketch Filled)
  | [] => []
  | node :: rest =>
      node.sketch.map (Filled.below position) :: sketchesFrom (position + 1) rest

end

mutual

/-- The texts of the fields that edit one of their own, with the paths to the fields. -/
def ownTexts : Node → List (List Nat × String)
  | .field _ none value => [([], value)]
  | .stack children => ownTextsFrom 0 children
  | .text _ _ | .field _ (some _) _ | .description _ _ => []

def ownTextsFrom (position : Nat) : List Node → List (List Nat × String)
  | [] => []
  | node :: rest =>
      node.ownTexts.map (fun own => (position :: own.1, own.2)) ++ ownTextsFrom (position + 1) rest

end

mutual

def nodeCount : Node → Nat
  | .stack children => 1 + nodeCountAll children
  | .text _ _ | .field _ _ _ | .description _ _ => 1

def nodeCountAll : List Node → Nat
  | [] => 0
  | node :: rest => node.nodeCount + nodeCountAll rest

end

variable (names : List String)

mutual

/-- Every reference of a node is to one of some names, and the node has no text beside it. -/
def IsSound : Node → Prop
  | .text content (some name) => content = "" ∧ name ∈ names
  | .field _ (some name) value => value = "" ∧ name ∈ names
  | .stack children => AreSound children
  | .text _ none | .field _ none _ | .description _ _ => True

def AreSound : List Node → Prop
  | [] => True
  | node :: rest => node.IsSound ∧ AreSound rest

end

variable {initial names}

mutual

theorem nodeCount_view_sketch (bind : Filled → Binding) : ∀ node : Node,
    ((node.sketch initial).view bind).nodeCount = node.nodeCount
  | .text _ none | .text _ (some _) | .field _ none _ | .field _ (some _) _
  | .description _ _ => rfl
  | .stack children => by
      rw [sketch, Sketch.view, View.nodeCount, nodeCount,
        nodeCountAll_viewAll_sketchesFrom bind 0 children]

theorem nodeCountAll_viewAll_sketchesFrom (bind : Filled → Binding) (position : Nat) :
    ∀ nodes : List Node,
      View.nodeCountAll (Sketch.viewAll bind (sketchesFrom initial position nodes)) =
        nodeCountAll nodes
  | [] => rfl
  | node :: rest => by
      rw [sketchesFrom, Sketch.viewAll, View.nodeCountAll, nodeCountAll, Sketch.view_map,
        nodeCount_view_sketch _ node, nodeCountAll_viewAll_sketchesFrom bind (position + 1) rest]

end

/-! ## The node at a place -/

def children : Node → List Node
  | .stack children => children
  | .text _ _ | .field _ _ _ | .description _ _ => []

def at? (node : Node) : List Nat → Option Node
  | [] => some node
  | position :: path =>
      match node.children[position]? with
      | some child => child.at? path
      | none => none

/-- The name that the field at the end of a path refers to. -/
def fieldName? (node : Node) (path : List Nat) : Option String :=
  match node.at? path with
  | some (.field _ name _) => name
  | _ => none

/-- What the sketch holds for a node at a path. -/
def filled? (initial : String → String) (path : List Nat) : Node → Option Filled
  | .field _ none value => some ⟨.own path, value⟩
  | .field _ (some name) _ => some ⟨.named name, initial name⟩
  | .text _ _ | .stack _ | .description _ _ => none

theorem map_below_filled? (position : Nat) (path : List Nat) (node : Node) :
    (node.filled? initial path).map (Filled.below position) =
      node.filled? initial (position :: path) := by
  cases node with
  | field title name value => cases name <;> rfl
  | text | stack | description => rfl

theorem children_sketch (node : Node) :
    (node.sketch initial).children = sketchesFrom initial 0 node.children := by
  cases node with
  | text content name => cases name <;> rfl
  | field title name value => cases name <;> rfl
  | stack | description => rfl

theorem getElem?_sketchesFrom (start position : Nat) (nodes : List Node) :
    (sketchesFrom initial start nodes)[position]? =
      nodes[position]?.map fun node =>
        (node.sketch initial).map (Filled.below (start + position)) := by
  induction nodes generalizing start position with
  | nil => rfl
  | cons node rest ih =>
      cases position with
      | zero => rfl
      | succ position =>
          rw [sketchesFrom, List.getElem?_cons_succ, List.getElem?_cons_succ, ih,
            Nat.add_right_comm, Nat.add_assoc]

theorem held?_sketch (node : Node) (path : List Nat) :
    (node.sketch initial).held? path = (node.at? path).bind fun found =>
      found.filled? initial path := by
  induction path generalizing node with
  | nil =>
      cases node with
      | text content name => cases name <;> rfl
      | field title name value => cases name <;> rfl
      | stack | description => rfl
  | cons position path ih =>
      rw [Sketch.held?_cons, children_sketch, getElem?_sketchesFrom, at?, Nat.zero_add]
      cases node.children[position]? with
      | none => rfl
      | some child =>
          simp only [Option.map_some, Option.bind_some, Sketch.held?_map, ih]
          cases child.at? path with
          | none => rfl
          | some found => exact map_below_filled? position path found

theorem mem_ownTextsFrom {nodes : List Node} {position : Nat} {node : Node}
    (isNode : nodes[position]? = some node) (start : Nat) {own : List Nat × String}
    (member : own ∈ node.ownTexts) :
    ((start + position) :: own.1, own.2) ∈ ownTextsFrom start nodes := by
  induction nodes generalizing start position with
  | nil => cases isNode
  | cons first rest ih =>
      cases position with
      | zero =>
          obtain rfl := Option.some.inj isNode
          exact List.mem_append_left _ (List.mem_map_of_mem member)
      | succ position =>
          have later := ih isNode (start + 1)
          rw [Nat.add_right_comm] at later
          exact List.mem_append_right _ later

theorem mem_ownTexts_of_at? {node : Node} {path : List Nat} {title value : String}
    (isField : node.at? path = some (.field title none value)) :
    (path, value) ∈ node.ownTexts := by
  induction path generalizing node with
  | nil =>
      obtain rfl := Option.some.inj isField
      simp [ownTexts]
  | cons position path ih =>
      rw [at?] at isField
      cases isChild : node.children[position]? with
      | none => simp [isChild] at isField
      | some child =>
          rw [isChild] at isField
          cases node with
          | stack nodes =>
              have member := mem_ownTextsFrom isChild 0 (ih isField)
              rwa [Nat.zero_add] at member
          | text | field | description => cases isChild

theorem AreSound.of_mem {nodes : List Node} (sound : AreSound names nodes) :
    ∀ node ∈ nodes, node.IsSound names := by
  induction nodes with
  | nil => simp
  | cons first rest ih => exact List.forall_mem_cons.mpr ⟨sound.1, ih sound.2⟩

theorem IsSound.at? {node found : Node} (sound : node.IsSound names) {path : List Nat}
    (isFound : node.at? path = some found) : found.IsSound names := by
  induction path generalizing node with
  | nil => exact Option.some.inj isFound ▸ sound
  | cons position path ih =>
      rw [Node.at?] at isFound
      cases isChild : node.children[position]? with
      | none => simp [isChild] at isFound
      | some child =>
          rw [isChild] at isFound
          cases node with
          | stack nodes =>
              exact ih (AreSound.of_mem sound child (List.mem_of_getElem? isChild)) isFound
          | text | field | description => cases isChild

/-! ## Slots are distinct -/

theorem exists_position_of_mem_ownTextsFrom {nodes : List Node} {start : Nat}
    {own : List Nat × String} (member : own ∈ ownTextsFrom start nodes) :
    ∃ position path, start ≤ position ∧ own.1 = position :: path := by
  induction nodes generalizing start with
  | nil => cases member
  | cons node rest ih =>
      rcases List.mem_append.mp member with isFirst | isLater
      · obtain ⟨inner, _, rfl⟩ := List.mem_map.mp isFirst
        exact ⟨start, inner.1, Nat.le_refl start, rfl⟩
      · obtain ⟨position, path, after, isPath⟩ := ih isLater
        exact ⟨position, path, Nat.le_of_succ_le after, isPath⟩

mutual

theorem nodup_ownTexts : ∀ node : Node, (node.ownTexts.map Prod.fst).Nodup
  | .text _ _ | .field _ (some _) _ | .description _ _ => List.nodup_nil
  | .field _ none _ => by simp [ownTexts]
  | .stack children => nodup_ownTextsFrom 0 children

theorem nodup_ownTextsFrom (start : Nat) : ∀ nodes : List Node,
    ((ownTextsFrom start nodes).map Prod.fst).Nodup
  | [] => List.nodup_nil
  | node :: rest => by
      have first : ((node.ownTexts.map fun own => (start :: own.1, own.2)).map Prod.fst).Nodup := by
        have paths := (nodup_ownTexts node).map (List.cons_injective (a := start))
        simpa only [List.map_map, Function.comp_def] using paths
      rw [ownTextsFrom, List.map_append]
      apply first.append (nodup_ownTextsFrom (start + 1) rest)
      -- paths of the first child start with its position, and all others with a later one
      intro path isFirst isLater
      obtain ⟨own, isOwn, rfl⟩ := List.mem_map.mp isFirst
      obtain ⟨inner, _, rfl⟩ := List.mem_map.mp isOwn
      obtain ⟨later, isLater, samePath⟩ := List.mem_map.mp isLater
      obtain ⟨position, path, after, isPath⟩ := exists_position_of_mem_ownTextsFrom isLater
      rw [isPath] at samePath
      have samePosition := (List.cons.inj samePath).1
      omega

end

end Node

theorem lookup_of_mem {entries : List (String × String)} (distinct : (entries.map Prod.fst).Nodup)
    {entry : String × String} (member : entry ∈ entries) :
    entries.lookup entry.1 = some entry.2 := by
  induction entries with
  | nil => cases member
  | cons first rest ih =>
      obtain ⟨notLater, distinct⟩ := List.nodup_cons.mp distinct
      rcases List.mem_cons.mp member with rfl | isLater
      · rw [List.lookup_cons, beq_self_eq_true]
      · have isOther : (entry.1 == first.1) = false := by
          apply beq_false_of_ne
          intro same
          exact notLater (same ▸ List.mem_map_of_mem isLater)
        rw [List.lookup_cons, isOther]
        exact ih distinct isLater

namespace Document

def initial (document : Document) (name : String) : String :=
  (document.state.entries.lookup name).getD ""

def names (document : Document) : List String := document.state.entries.map Prod.fst

def sketch (document : Document) : Sketch Filled := document.root.sketch document.initial

def IsSound (document : Document) : Prop := document.root.IsSound document.names

/-- All texts of a document: the named ones, and then the fields' own in reading order. -/
def texts (document : Document) : List Filled :=
  document.state.entries.map (fun entry => ⟨.named entry.1, entry.2⟩) ++
    document.root.ownTexts.map fun own => ⟨.own own.1, own.2⟩

def slots (document : Document) : List Slot := document.texts.map Filled.slot

theorem nodup_names (document : Document) : document.names.Nodup := by
  apply List.Pairwise.map _ _ document.state.inOrder
  intro first second before same
  exact String.lt_irrefl _ (same ▸ before)

theorem slots_eq (document : Document) :
    document.slots = document.names.map Slot.named ++
      document.root.ownTexts.map fun own => Slot.own own.1 := by
  rw [slots, texts, List.map_append, List.map_map, List.map_map, names, List.map_map]
  rfl

theorem nodup_slots (document : Document) : document.slots.Nodup := by
  have own : (document.root.ownTexts.map fun own => Slot.own own.1).Nodup := by
    have distinct := document.root.nodup_ownTexts.map Slot.own_injective
    simpa only [List.map_map, Function.comp_def] using distinct
  rw [slots_eq]
  apply (document.nodup_names.map Slot.named_injective).append own
  intro slot isNamed isOwn
  obtain ⟨name, _, rfl⟩ := List.mem_map.mp isNamed
  obtain ⟨inner, _, same⟩ := List.mem_map.mp isOwn
  cases same

theorem initial_of_mem {document : Document} {entry : String × String}
    (member : entry ∈ document.state.entries) : document.initial entry.1 = entry.2 := by
  rw [initial, lookup_of_mem document.nodup_names member, Option.getD_some]

theorem mem_texts_of_held? {document : Document} (sound : document.IsSound) {path : List Nat}
    {filled : Filled} (isHeld : document.sketch.held? path = some filled) :
    filled ∈ document.texts := by
  rw [sketch, Node.held?_sketch, Option.bind_eq_some_iff] at isHeld
  obtain ⟨node, isNode, isFilled⟩ := isHeld
  cases node with
  | field title name value =>
      cases name with
      | none =>
          cases isFilled
          exact List.mem_append_right _ (List.mem_map_of_mem (Node.mem_ownTexts_of_at? isNode))
      | some name =>
          cases isFilled
          obtain ⟨_, known⟩ := Node.IsSound.at? sound isNode
          obtain ⟨entry, member, rfl⟩ := List.mem_map.mp known
          rw [initial_of_mem member]
          exact List.mem_append_left _ (List.mem_map_of_mem member)
  | text | stack | description => cases isFilled

theorem slot_of_held? {document : Document} {path : List Nat} {filled : Filled}
    (isHeld : document.sketch.held? path = some filled) :
    filled.slot = ((document.root.fieldName? path).map Slot.named).getD (.own path) := by
  rw [sketch, Node.held?_sketch, Option.bind_eq_some_iff] at isHeld
  obtain ⟨node, isNode, isFilled⟩ := isHeld
  rw [Node.fieldName?, isNode]
  cases node with
  | field title name value => cases name <;> cases isFilled <;> rfl
  | text | stack | description => cases isFilled

/-- Two fields hold one slot exactly if they are the same field or refer to the same name. -/
theorem slot_eq_iff {document : Document} {path other : List Nat} {filled otherFilled : Filled}
    (isHeld : document.sketch.held? path = some filled)
    (isOther : document.sketch.held? other = some otherFilled) :
    filled.slot = otherFilled.slot ↔ path = other ∨ ∃ name,
      document.root.fieldName? path = some name ∧ document.root.fieldName? other = some name := by
  rw [slot_of_held? isHeld, slot_of_held? isOther]
  constructor
  · intro same
    cases isName : document.root.fieldName? path with
    | none =>
        cases isOtherName : document.root.fieldName? other with
        | none =>
            rw [isName, isOtherName] at same
            exact .inl (Slot.own_injective same)
        | some name =>
            rw [isName, isOtherName] at same
            cases same
    | some name =>
        cases isOtherName : document.root.fieldName? other with
        | none =>
            rw [isName, isOtherName] at same
            cases same
        | some otherName =>
            rw [isName, isOtherName] at same
            exact .inr ⟨name, rfl, congrArg some (Slot.named_injective same).symm⟩
  · rintro (rfl | ⟨name, isName, isOtherName⟩)
    · rfl
    · rw [isName, isOtherName]
      rfl

end Document

end Polyview
