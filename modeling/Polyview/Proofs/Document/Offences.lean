import Mathlib.Data.List.Lex
import Polyview.Proofs.Document.Slots
import Polyview.Proofs.Result

/-!
# The first offence in a document

A node offends if it sets its text twice, or if it refers to a name that the document does not know.
A document has views exactly if none of its nodes offends. Otherwise the first offence is reported,
in the order in which the document is read: a stack before its children, and these from left to
right. In this order nodes come as their paths do as words.
-/

namespace Polyview

namespace Node

/-- What is wrong with a node itself, where some names are known. A node that sets its text twice is
not asked for its name any more. -/
inductive Offends (names : List String) : Node → DocumentError → Prop
  | textSetTwice {content name : String} (notEmpty : content ≠ "") :
      Offends names (.text content (some name)) .textSetTwice
  | fieldSetTwice {title name value : String} (notEmpty : value ≠ "") :
      Offends names (.field title (some name) value) (.fieldSetTwice title)
  | unknownInText {name : String} (unknown : name ∉ names) :
      Offends names (.text "" (some name)) (.unknownName name .text)
  | unknownInField {title name : String} (unknown : name ∉ names) :
      Offends names (.field title (some name) "") (.unknownName name .field)

variable {names : List String}

theorem Offends.unique {node : Node} {error other : DocumentError}
    (offends : node.Offends names error) (offendsToo : node.Offends names other) :
    error = other := by
  cases offends <;> cases offendsToo <;> first | rfl | contradiction

theorem not_offends_stack (children : List Node) (error : DocumentError) :
    ¬ (Node.stack children).Offends names error := nofun

/-- Neither a node nor any node below it offends. -/
def IsFaultless (names : List String) (node : Node) : Prop :=
  ∀ path other, node.at? path = some other → ∀ error, ¬ other.Offends names error

/-- The node at the end of a path offends, and no node that is read earlier does. -/
structure IsFirstOffence (names : List String) (node : Node) (path : List Nat)
    (error : DocumentError) : Prop where
  offends : ∃ other, node.at? path = some other ∧ other.Offends names error
  first : ∀ earlier < path, ∀ other, node.at? earlier = some other →
    ∀ fault, ¬ other.Offends names fault

/-! ## Nodes and their children -/

theorem at?_cons (node : Node) (position : Nat) (path : List Nat) :
    node.at? (position :: path) = node.children[position]?.bind fun child => child.at? path := by
  rw [at?]
  cases node.children[position]? <;> rfl

theorem IsFaultless.of_leaf {node : Node} (noChildren : node.children = [])
    (sound : ∀ error, ¬ node.Offends names error) : node.IsFaultless names := by
  intro path other found
  cases path with
  | nil =>
      obtain rfl := Option.some.inj found
      exact sound
  | cons position path => simp [at?_cons, noChildren] at found

theorem IsFaultless.stack {children : List Node}
    (faultless : ∀ child ∈ children, child.IsFaultless names) :
    (Node.stack children).IsFaultless names := by
  intro path other found
  cases path with
  | nil =>
      obtain rfl := Option.some.inj found
      exact not_offends_stack children
  | cons position path =>
      rw [at?_cons, Option.bind_eq_some_iff] at found
      obtain ⟨child, isChild, found⟩ := found
      exact faultless child (List.mem_of_getElem? isChild) path other found

/-- The first node that is read is the node itself. -/
theorem IsFirstOffence.here {node : Node} {error : DocumentError}
    (offends : node.Offends names error) : node.IsFirstOffence names [] error where
  offends := ⟨node, rfl, offends⟩
  first earlier before := absurd before (List.not_lt_nil earlier)

/-- The first offence in a stack is the first one in a child that has only faultless children before
it. -/
theorem IsFirstOffence.stack {children : List Node} {position : Nat} {child : Node}
    {path : List Nat} {error : DocumentError} (isChild : children[position]? = some child)
    (isFirst : child.IsFirstOffence names path error)
    (faultless : ∀ earlier < position, ∀ other, children[earlier]? = some other →
      other.IsFaultless names) :
    (Node.stack children).IsFirstOffence names (position :: path) error where
  offends := by
    obtain ⟨other, found, offends⟩ := isFirst.offends
    refine ⟨other, ?_, offends⟩
    rw [at?_cons, Node.children, isChild]
    exact found
  first earlier before other found := by
    cases earlier with
    | nil =>
        obtain rfl := Option.some.inj found
        exact not_offends_stack children
    | cons earlierPosition earlierPath =>
        rw [at?_cons, Option.bind_eq_some_iff] at found
        obtain ⟨earlierChild, isEarlierChild, found⟩ := found
        rcases List.cons_lt_cons_iff.mp before with less | ⟨rfl, less⟩
        · exact faultless earlierPosition less earlierChild isEarlierChild earlierPath other found
        · obtain rfl := Option.some.inj (isChild.symm.trans isEarlierChild)
          exact isFirst.first earlierPath less other found

/-- There is only one first offence, since one of two paths comes first. -/
theorem IsFirstOffence.unique {node : Node} {path otherPath : List Nat}
    {error otherError : DocumentError} (isFirst : node.IsFirstOffence names path error)
    (isFirstToo : node.IsFirstOffence names otherPath otherError) : error = otherError := by
  obtain ⟨found, isFound, offends⟩ := isFirst.offends
  obtain ⟨other, isOther, offendsToo⟩ := isFirstToo.offends
  rcases lt_trichotomy path otherPath with before | rfl | after
  · exact absurd offends (isFirstToo.first path before found isFound error)
  · obtain rfl := Option.some.inj (isFound.symm.trans isOther)
    exact offends.unique offendsToo
  · exact absurd offendsToo (isFirst.first otherPath after other isOther otherError)

theorem IsFaultless.not_isFirstOffence {node : Node} (faultless : node.IsFaultless names)
    (path : List Nat) (error : DocumentError) : ¬ node.IsFirstOffence names path error := by
  rintro ⟨⟨other, found, offends⟩, -⟩
  exact faultless path other found error offends

/-! ## What building views reports -/

/-- Either there are views and no offence, or the first offence is the error. -/
def Reports {α : Type} (names : List String) (node : Node) : Except DocumentError α → Prop
  | .ok _ => node.IsFaultless names
  | .error error => ∃ path, node.IsFirstOffence names path error

/-- Either there are views and no offence in any of several nodes, or the error is the first offence
in the first node that has one. -/
def ReportsAmong {α : Type} (names : List String) (nodes : List Node) :
    Except DocumentError α → Prop
  | .ok _ => ∀ node ∈ nodes, node.IsFaultless names
  | .error error => ∃ (position : Nat) (node : Node) (path : List Nat),
      nodes[position]? = some node ∧ node.IsFirstOffence names path error ∧
      ∀ earlier < position, ∀ other, nodes[earlier]? = some other → other.IsFaultless names

variable {cells : CellTable} {α : Type}

/-- A node without children that offends exactly if its name is not known. -/
theorem reports_cellFor (known : ∀ name, (cells.lookup name).isSome ↔ name ∈ names)
    {node : Node} {name : String} {referrer : Referrer} (noChildren : node.children = [])
    (offends_iff : ∀ error,
      node.Offends names error ↔ name ∉ names ∧ error = .unknownName name referrer)
    (next : Cell → α) :
    node.Reports names (cellFor cells name referrer >>= fun cell => .ok (next cell)) := by
  have isKnown := known name
  rw [cellFor]
  cases found : cells.lookup name with
  | none =>
      have unknown : name ∉ names := by simpa [found] using isKnown
      exact ⟨[], .here ((offends_iff _).mpr ⟨unknown, rfl⟩)⟩
  | some cell =>
      have isName : name ∈ names := by simpa [found] using isKnown
      exact .of_leaf noChildren fun error offends => ((offends_iff error).mp offends).1 isName

theorem offends_text_iff {name : String} (error : DocumentError) :
    (Node.text "" (some name)).Offends names error ↔
      name ∉ names ∧ error = .unknownName name .text := by
  constructor
  · rintro (notEmpty | _ | unknown | _)
    · exact absurd rfl notEmpty
    · exact ⟨unknown, rfl⟩
  · rintro ⟨unknown, rfl⟩
    exact .unknownInText unknown

theorem offends_field_iff {title name : String} (error : DocumentError) :
    (Node.field title (some name) "").Offends names error ↔
      name ∉ names ∧ error = .unknownName name .field := by
  constructor
  · rintro (_ | notEmpty | _ | unknown)
    · exact absurd rfl notEmpty
    · exact ⟨unknown, rfl⟩
  · rintro ⟨unknown, rfl⟩
    exact .unknownInField unknown

theorem Reports.stack {children : List Node} {result : Except DocumentError (List View × Store)}
    (among : ReportsAmong names children result) :
    (Node.stack children).Reports names
      (result >>= fun (views, store) => .ok (View.stack views, store)) := by
  cases result with
  | ok built => exact IsFaultless.stack among
  | error error =>
      obtain ⟨position, child, path, isChild, isFirst, faultless⟩ := among
      exact ⟨position :: path, isFirst.stack isChild faultless⟩

theorem ReportsAmong.map {nodes : List Node} {β : Type} {result : Except DocumentError α}
    (among : ReportsAmong names nodes result) (image : α → β) :
    ReportsAmong names nodes (result >>= fun value => .ok (image value)) := by
  cases result <;> exact among

/-- If the first node has no offence, the others decide. -/
theorem ReportsAmong.cons {node : Node} {rest : List Node} {β : Type}
    {result : Except DocumentError α} {later : α → Except DocumentError β}
    (reports : node.Reports names result)
    (amongRest : ∀ value, result = .ok value → ReportsAmong names rest (later value)) :
    ReportsAmong names (node :: rest) (result >>= later) := by
  cases result with
  | error error =>
      obtain ⟨path, isFirst⟩ := reports
      exact ⟨0, node, path, rfl, isFirst, fun earlier before => absurd before (Nat.not_lt_zero _)⟩
  | ok value =>
      -- The positions of the others are one higher among all of them.
      have among := amongRest value rfl
      rw [ok_bind]
      cases last : later value with
      | ok built =>
          rw [last] at among
          exact List.forall_mem_cons.mpr ⟨reports, among⟩
      | error error =>
          rw [last] at among
          obtain ⟨position, child, path, isChild, isFirst, faultless⟩ := among
          refine ⟨position + 1, child, path, isChild, isFirst, fun earlier before other found => ?_⟩
          cases earlier with
          | zero =>
              obtain rfl := Option.some.inj found
              exact reports
          | succ earlier => exact faultless earlier (Nat.lt_of_succ_lt_succ before) other found

-- Each child is read with the store that the children before it have left, so the induction over the
-- tree is for every store. The names that are known stay the same.
mutual

theorem reports_toView (known : ∀ name, (cells.lookup name).isSome ↔ name ∈ names) :
    ∀ (node : Node) (store : Store), node.Reports names (node.toView cells store)
  | .text content none, _ => .of_leaf rfl nofun
  | .text content (some name), store => by
      rw [toView]
      split
      next notEmpty => exact ⟨[], .here (.textSetTwice notEmpty)⟩
      next isEmpty =>
        obtain rfl := not_not.mp isEmpty
        exact reports_cellFor known rfl offends_text_iff _
  | .field title none value, _ => .of_leaf rfl nofun
  | .field title (some name) value, store => by
      rw [toView]
      split
      next notEmpty => exact ⟨[], .here (.fieldSetTwice notEmpty)⟩
      next isEmpty =>
        obtain rfl := not_not.mp isEmpty
        exact reports_cellFor known rfl offends_field_iff _
  | .stack children, store => by
      rw [toView]
      exact .stack (reportsAmong_toViews known children store)
  | .description source body, _ => .of_leaf rfl nofun

theorem reportsAmong_toViews (known : ∀ name, (cells.lookup name).isSome ↔ name ∈ names) :
    ∀ (nodes : List Node) (store : Store), ReportsAmong names nodes (toViews cells store nodes)
  | [], _ => nofun
  | node :: rest, store => by
      rw [toViews]
      exact .cons (reports_toView known node store) fun (view, next) _ =>
        (reportsAmong_toViews known rest next).map fun built => (view :: built.1, built.2)

end

end Node

namespace Document

/-- The cells of a document's texts have the names of its texts. -/
theorem isSome_lookup_createCells (entries : List (String × String)) (store : Store)
    (name : String) :
    ((createCells store entries).1.lookup name).isSome ↔ name ∈ entries.map Prod.fst := by
  induction entries generalizing store with
  | nil => simp [createCells]
  | cons entry rest ih =>
      have later := ih (store.create entry.2).2
      simp only [createCells, List.lookup_cons, List.map_cons, List.mem_cons]
      by_cases same : name = entry.1
      · simp [same]
      · simp [beq_false_of_ne same, same, later]

/-- A document has no views exactly if one of its nodes offends, and the error is then the offence
of the first of these nodes: that it sets its text twice, or else the name that is not known. -/
theorem first_offence_is_reported (document : Document) (store : Store) :
    ((∃ error, document.toView store = .error error) ↔
      ∃ path node error, document.root.at? path = some node ∧
        node.Offends document.names error) ∧
    ∀ error, document.toView store = .error error ↔
      ∃ path, document.root.IsFirstOffence document.names path error := by
  have reports : document.root.Reports document.names (document.toView store) :=
    Node.reports_toView (isSome_lookup_createCells document.state.entries store) document.root _
  cases built : document.toView store with
  | ok views =>
      rw [built] at reports
      refine ⟨⟨nofun, ?_⟩, fun error => ⟨nofun, ?_⟩⟩
      · rintro ⟨path, node, error, found, offends⟩
        exact absurd offends (reports path node found error)
      · rintro ⟨path, isFirst⟩
        exact absurd isFirst (reports.not_isFirstOffence path error)
  | error reported =>
      rw [built] at reports
      obtain ⟨path, isFirst⟩ := reports
      obtain ⟨node, found, offends⟩ := isFirst.offends
      refine ⟨⟨fun _ => ⟨path, node, reported, found, offends⟩, fun _ => ⟨reported, rfl⟩⟩, ?_⟩
      intro error
      constructor
      · intro same
        obtain rfl := Except.error.inj same
        exact ⟨path, isFirst⟩
      · rintro ⟨otherPath, isFirstToo⟩
        rw [isFirst.unique isFirstToo]

end Document

end Polyview
