import Polyview.Document.Reader
import Polyview.Proofs.Document.Decoding
import Polyview.Proofs.Result

/-!
# How deep documents are nested

A node is written as an object, and the children of a stack as a list inside of that object. Nodes
therefore begin at every other level only, whatever spelling they were read from. Writing a stack
without children may add a list to what was read, but that list stays within the level below the
node, which the reader would have entered.
-/

namespace Polyview

open Json (Value)

namespace Node

mutual

/-- How many nodes stand inside one another at the deepest place of a tree. -/
def levels : Node → Nat
  | .stack children => levelsOf children + 1
  | .text _ _ | .field _ _ _ | .description _ _ => 1

/-- The levels of the deepest tree of a list. -/
def levelsOf : List Node → Nat
  | [] => 0
  | node :: rest => max node.levels (levelsOf rest)

end

/-! ## What is written -/

theorem nestingOfMembers_optionalMember (name : String) (text : Option String) :
    Value.nestingOfMembers (optionalMember name text) = 0 := by
  cases text <;> rfl

theorem nestingOfMembers_append (first second : List (String × Value)) :
    Value.nestingOfMembers (first ++ second) =
      max (Value.nestingOfMembers first) (Value.nestingOfMembers second) := by
  induction first with
  | nil => simp [Value.nestingOfMembers]
  | cons member rest ih => simp [Value.nestingOfMembers, ih, Nat.max_assoc]

mutual

/-- Each level of nodes is written as at most two levels of lists and objects. -/
theorem nesting_toValue_le : (node : Node) → node.toValue.nesting ≤ 2 * node.levels
  | .text content binding => by
      cases binding <;>
        simp [toValue, Value.nesting, Value.nestingOfMembers, optionalMember, levels]
  | .field title binding value => by
      simp [toValue, Value.nesting, Value.nestingOfMembers, nestingOfMembers_append,
        nestingOfMembers_optionalMember, levels]
  | .stack children => by
      have inside := nesting_toValues_le children
      simp [toValue, Value.nesting, Value.nestingOfMembers, levels]
      omega
  | .description source body => by
      simp [toValue, Value.nesting, Value.nestingOfMembers, nestingOfMembers_optionalMember, levels]

theorem nesting_toValues_le :
    (nodes : List Node) → Value.nestingOfItems (toValues nodes) ≤ 2 * levelsOf nodes
  | [] => by simp [toValues, Value.nestingOfItems]
  | node :: rest => by
      have first := nesting_toValue_le node
      have later := nesting_toValues_le rest
      simp only [toValues, Value.nestingOfItems, levelsOf]
      omega

end

mutual

theorem isNumberless_toValue : (node : Node) → node.toValue.isNumberless = true
  | .text content binding => by
      cases binding <;> rfl
  | .field title binding value => by
      cases binding <;> by_cases empty : value = "" <;>
        simp [toValue, optionalMember, empty, Value.isNumberless, Value.haveNumberless]
  | .stack children => by
      have inside := areNumberless_toValues children
      simpa [toValue, Value.isNumberless, Value.haveNumberless] using inside
  | .description source body => by
      cases body <;> rfl

theorem areNumberless_toValues :
    (nodes : List Node) → Value.areNumberless (toValues nodes) = true
  | [] => rfl
  | node :: rest => by
      simp [toValues, Value.areNumberless, isNumberless_toValue node, areNumberless_toValues rest]

end

/-! ## What is read -/

theorem levels_of_textOfMembers {content : Option String} {binding : Option (Option String)}
    {members : List (String × Value)} {node : Node}
    (decoded : textOfMembers content binding members = .ok node) : node.levels = 1 := by
  induction members generalizing content binding with
  | nil =>
      cases decoded
      rfl
  | cons member rest ih =>
      rw [textOfMembers] at decoded
      split_ifs at decoded
      · obtain ⟨_, -, later⟩ := bind_eq_ok.1 decoded
        exact ih later
      · obtain ⟨_, -, later⟩ := bind_eq_ok.1 decoded
        exact ih later
      · exact ih decoded

theorem levels_of_fieldOfMembers {title : Option String} {binding : Option (Option String)}
    {initial : Option String} {members : List (String × Value)} {node : Node}
    (decoded : fieldOfMembers title binding initial members = .ok node) : node.levels = 1 := by
  induction members generalizing title binding initial with
  | nil =>
      obtain ⟨_, -, later⟩ := bind_eq_ok.1 decoded
      cases later
      rfl
  | cons member rest ih =>
      rw [fieldOfMembers] at decoded
      split_ifs at decoded
      · obtain ⟨_, -, later⟩ := bind_eq_ok.1 decoded
        exact ih later
      · obtain ⟨_, -, later⟩ := bind_eq_ok.1 decoded
        exact ih later
      · obtain ⟨_, -, later⟩ := bind_eq_ok.1 decoded
        exact ih later
      · exact ih decoded

theorem levels_of_descriptionOfMembers {source : Option String} {body : Option (Option String)}
    {members : List (String × Value)} {node : Node}
    (decoded : descriptionOfMembers source body members = .ok node) : node.levels = 1 := by
  induction members generalizing source body with
  | nil =>
      obtain ⟨_, -, later⟩ := bind_eq_ok.1 decoded
      cases later
      rfl
  | cons member rest ih =>
      rw [descriptionOfMembers] at decoded
      split_ifs at decoded
      · obtain ⟨_, -, later⟩ := bind_eq_ok.1 decoded
        exact ih later
      · obtain ⟨_, -, later⟩ := bind_eq_ok.1 decoded
        exact ih later
      · exact ih decoded

theorem levels_of_textOfItems {items : List Value} {node : Node}
    (decoded : textOfItems items = .ok node) : node.levels = 1 := by
  match items with
  | [] =>
      cases decoded
      rfl
  | [_] =>
      obtain ⟨_, -, later⟩ := bind_eq_ok.1 decoded
      cases later
      rfl
  | _ :: _ :: _ =>
      obtain ⟨_, -, later⟩ := bind_eq_ok.1 decoded
      obtain ⟨_, -, later⟩ := bind_eq_ok.1 later
      obtain ⟨_, -, later⟩ := bind_eq_ok.1 later
      cases later
      rfl

theorem levels_of_fieldOfItems {items : List Value} {node : Node}
    (decoded : fieldOfItems items = .ok node) : node.levels = 1 := by
  match items with
  | [] => cases decoded
  | [_] =>
      obtain ⟨_, -, later⟩ := bind_eq_ok.1 decoded
      cases later
      rfl
  | [_, _] =>
      obtain ⟨_, -, later⟩ := bind_eq_ok.1 decoded
      obtain ⟨_, -, later⟩ := bind_eq_ok.1 later
      cases later
      rfl
  | _ :: _ :: _ :: _ =>
      obtain ⟨_, -, later⟩ := bind_eq_ok.1 decoded
      obtain ⟨_, -, later⟩ := bind_eq_ok.1 later
      obtain ⟨_, -, later⟩ := bind_eq_ok.1 later
      obtain ⟨_, -, later⟩ := bind_eq_ok.1 later
      cases later
      rfl

theorem levels_of_descriptionOfItems {items : List Value} {node : Node}
    (decoded : descriptionOfItems items = .ok node) : node.levels = 1 := by
  match items with
  | [] => cases decoded
  | [_] =>
      obtain ⟨_, -, later⟩ := bind_eq_ok.1 decoded
      cases later
      rfl
  | _ :: _ :: _ =>
      obtain ⟨_, -, later⟩ := bind_eq_ok.1 decoded
      obtain ⟨_, -, later⟩ := bind_eq_ok.1 later
      obtain ⟨_, -, later⟩ := bind_eq_ok.1 later
      cases later
      rfl

mutual

/-- Each level of nodes has been read from at least two levels of lists and objects, but for the
deepest one, which may lack the list of its children. -/
theorem levels_of_ofValue : (value : Value) → (node : Node) → ofValue value = .ok node →
    2 * node.levels ≤ value.nesting + 1
  | .object members, node, decoded => by
      obtain ⟨kind, -, decoded⟩ := bind_eq_ok.1 decoded
      simp only [Value.nesting]
      cases kind with
      | text =>
          have flat := levels_of_textOfMembers decoded
          omega
      | field =>
          have flat := levels_of_fieldOfMembers decoded
          omega
      | stack =>
          have inside := levels_of_stackOfMembers none members node decoded
          simp [levelsOf] at inside
          omega
      | description =>
          have flat := levels_of_descriptionOfMembers decoded
          omega
  | .list [], _, decoded => by cases decoded
  | .list (kind :: items), node, decoded => by
      obtain ⟨kind, -, decoded⟩ := bind_eq_ok.1 decoded
      simp only [Value.nesting, Value.nestingOfItems]
      cases kind with
      | text =>
          have flat := levels_of_textOfItems decoded
          omega
      | field =>
          have flat := levels_of_fieldOfItems decoded
          omega
      | stack =>
          have inside := levels_of_stackOfItems items node decoded
          omega
      | description =>
          have flat := levels_of_descriptionOfItems decoded
          omega
  | .null, _, decoded | .boolean _, _, decoded | .number _, _, decoded | .text _, _, decoded => by
      cases decoded

theorem levels_of_ofValues : (values : List Value) → (nodes : List Node) →
    ofValues values = .ok nodes → 2 * levelsOf nodes ≤ Value.nestingOfItems values + 1
  | [], nodes, decoded => by
      cases decoded
      simp [levelsOf]
  | value :: rest, nodes, decoded => by
      obtain ⟨node, nodeDecoded, decoded⟩ := bind_eq_ok.1 decoded
      obtain ⟨later, laterDecoded, decoded⟩ := bind_eq_ok.1 decoded
      cases decoded
      have first := levels_of_ofValue value node nodeDecoded
      have others := levels_of_ofValues rest later laterDecoded
      simp only [levelsOf, Value.nestingOfItems]
      omega

theorem levels_of_childrenOf : (value : Value) → (nodes : List Node) →
    childrenOf value = .ok nodes → 2 * levelsOf nodes ≤ value.nesting
  | .list items, nodes, decoded => by
      simpa [Value.nesting] using levels_of_ofValues items nodes decoded
  | .null, _, decoded | .boolean _, _, decoded | .number _, _, decoded | .text _, _, decoded
  | .object _, _, decoded => by
      cases decoded

theorem levels_of_stackOfMembers : (children : Option (List Node)) →
    (members : List (String × Value)) → (node : Node) → stackOfMembers children members = .ok node →
    2 * node.levels ≤ max (Value.nestingOfMembers members) (2 * levelsOf (children.getD [])) + 2
  | children, [], node, decoded => by
      cases decoded
      simp [levels]
      omega
  | children, (name, value) :: rest, node, decoded => by
      unfold stackOfMembers at decoded
      simp only [Value.nestingOfMembers]
      split_ifs at decoded
      · cases children with
        | some nodes => cases decoded
        | none =>
            obtain ⟨nodes, nodesDecoded, decoded⟩ := bind_eq_ok.1 decoded
            have inside := levels_of_childrenOf value nodes nodesDecoded
            have later := levels_of_stackOfMembers (some nodes) rest node decoded
            simp only [Option.getD_some, Option.getD_none, levelsOf] at later ⊢
            omega
      · have later := levels_of_stackOfMembers children rest node decoded
        omega

theorem levels_of_stackOfItems : (items : List Value) → (node : Node) →
    stackOfItems items = .ok node → 2 * node.levels ≤ Value.nestingOfItems items + 2
  | [], node, decoded => by
      cases decoded
      simp [levels, levelsOf]
  | children :: more, node, decoded => by
      obtain ⟨nodes, nodesDecoded, decoded⟩ := bind_eq_ok.1 decoded
      obtain ⟨_, -, decoded⟩ := bind_eq_ok.1 decoded
      cases decoded
      have inside := levels_of_childrenOf children nodes nodesDecoded
      simp only [levels, Value.nestingOfItems]
      omega

end

theorem levels_of_ofMembers {kind : NodeKind} {members : List (String × Value)} {node : Node}
    (decoded : ofMembers kind members = .ok node) :
    2 * node.levels ≤ Value.nestingOfMembers members + 2 := by
  cases kind with
  | text =>
      have flat := levels_of_textOfMembers decoded
      omega
  | field =>
      have flat := levels_of_fieldOfMembers decoded
      omega
  | stack => simpa [levelsOf] using levels_of_stackOfMembers none members node decoded
  | description =>
      have flat := levels_of_descriptionOfMembers decoded
      omega

theorem levels_of_ofItems {kind : NodeKind} {items : List Value} {node : Node}
    (decoded : ofItems kind items = .ok node) :
    2 * node.levels ≤ Value.nestingOfItems items + 2 := by
  cases kind with
  | text =>
      have flat := levels_of_textOfItems decoded
      omega
  | field =>
      have flat := levels_of_fieldOfItems decoded
      omega
  | stack => exact levels_of_stackOfItems items node decoded
  | description =>
      have flat := levels_of_descriptionOfItems decoded
      omega

end Node

namespace Document

open Json

theorem placed_eq_ok {α : Type} {result : Except Fault α} {value : α} :
    placed result = .ok value ↔ result = .ok value := by
  cases result <;> simp [placed, Except.mapError]

theorem settled_eq_ok {α : Type} {place : Cursor → Position} {result : Except Raised α}
    {value : α} : settled place result = .ok value ↔ result = .ok value := by
  match result with
  | .ok _ => simp [settled]
  | .error (.fault _) | .error (.loose _ _) => simp [settled]

theorem nesting_of_readRootMembers {fuel depth : Nat} {isFirst : Bool} {kind : Option NodeKind}
    {cursor after : Cursor} {found : NodeKind} {members : List (String × Value)}
    (read : readRootMembers fuel depth isFirst kind cursor = .ok (found, members, after)) :
    Value.nestingOfMembers members ≤ depth := by
  induction fuel generalizing isFirst kind cursor found members after with
  | zero => cases read
  | succ fuel ih =>
      unfold readRootMembers at read
      obtain ⟨next, -, read⟩ := bind_eq_ok.1 read
      cases next with
      | none =>
          cases kind with
          | none => cases read
          | some kind =>
              cases read
              exact Nat.zero_le depth
      | some named =>
          dsimp only at read
          split_ifs at read
          · obtain ⟨⟨kind, cursor⟩, -, read⟩ := bind_eq_ok.1 read
            exact ih read
          · obtain ⟨⟨value, cursor⟩, valueRead, read⟩ := bind_eq_ok.1 read
            obtain ⟨⟨kind, later, cursor⟩, laterRead, read⟩ := bind_eq_ok.1 read
            cases read
            obtain ⟨colon, -, valueRead⟩ := bind_eq_ok.1 (placed_eq_ok.1 valueRead)
            exact Nat.max_le.2 ⟨nesting_le_of_readValue valueRead, ih laterRead⟩

theorem nesting_of_readRootItems {depth : Nat} {cursor after : Cursor} {found : NodeKind}
    {items : List Value} (read : readRootItems depth cursor = .ok (found, items, after)) :
    Value.nestingOfItems items ≤ depth := by
  obtain ⟨next, -, read⟩ := bind_eq_ok.1 read
  cases next with
  | none => cases read
  | some cursor =>
      obtain ⟨⟨kind, cursor⟩, -, read⟩ := bind_eq_ok.1 read
      obtain ⟨⟨items, cursor⟩, itemsRead, read⟩ := bind_eq_ok.1 read
      cases read
      exact nestingOfItems_le_of_readItems (placed_eq_ok.1 itemsRead)

/-- The root that has been read has at most half as many levels of nodes as lists and objects could
be opened. -/
theorem levels_of_readRoot {depth : Nat} {cursor after : Cursor} {root : Node}
    (read : readRoot depth cursor = .ok (root, after)) : 2 * root.levels ≤ depth + 1 := by
  unfold readRoot at read
  dsimp only at read
  split_ifs at read
  · cases depth with
    | zero => cases read
    | succ depth =>
        obtain ⟨⟨kind, members, cursor⟩, membersRead, read⟩ := bind_eq_ok.1 read
        have shallow := nesting_of_readRootMembers (settled_eq_ok.1 (placed_eq_ok.1 membersRead))
        dsimp only at read
        split at read
        next node decoded =>
          cases read
          have inside := Node.levels_of_ofMembers decoded
          omega
        next => cases read
  · cases depth with
    | zero => cases read
    | succ depth =>
        obtain ⟨⟨kind, items, cursor⟩, itemsRead, read⟩ := bind_eq_ok.1 read
        have shallow := nesting_of_readRootItems (settled_eq_ok.1 (placed_eq_ok.1 itemsRead))
        dsimp only at read
        split at read
        next node decoded =>
          cases read
          have inside := Node.levels_of_ofItems decoded
          omega
        next => cases read
  · obtain ⟨_, -, read⟩ := bind_eq_ok.1 (placed_eq_ok.1 read)
    cases read

theorem levels_of_readDocumentMembers {fuel depth : Nat} {isFirst : Bool}
    {state : Option TextTable} {root : Option Node} {cursor after : Cursor} {document : Document}
    (shallow : ∀ node ∈ root, 2 * node.levels ≤ depth + 1)
    (read : readDocumentMembers fuel depth isFirst state root cursor = .ok (document, after)) :
    2 * document.root.levels ≤ depth + 1 := by
  induction fuel generalizing isFirst state root cursor with
  | zero => cases read
  | succ fuel ih =>
      unfold readDocumentMembers at read
      obtain ⟨next, -, read⟩ := bind_eq_ok.1 read
      cases next with
      | none =>
          cases root with
          | none => cases read
          | some root =>
              cases read
              exact shallow root rfl
      | some named =>
          dsimp only at read
          split_ifs at read
          · obtain ⟨⟨state, cursor⟩, -, read⟩ := bind_eq_ok.1 read
            exact ih shallow read
          · obtain ⟨colon, -, read⟩ := bind_eq_ok.1 read
            obtain ⟨⟨node, cursor⟩, rootRead, read⟩ := bind_eq_ok.1 read
            exact ih (fun _ isRoot => Option.some.inj isRoot ▸ levels_of_readRoot rootRead) read
          · obtain ⟨cursor, -, read⟩ := bind_eq_ok.1 read
            exact ih shallow read

theorem levels_of_readDocumentItems {depth : Nat} {cursor after : Cursor} {document : Document}
    (read : readDocumentItems depth cursor = .ok (document, after)) :
    2 * document.root.levels ≤ depth + 1 := by
  obtain ⟨next, -, read⟩ := bind_eq_ok.1 read
  cases next with
  | none => cases read
  | some cursor =>
      obtain ⟨⟨state, cursor⟩, -, read⟩ := bind_eq_ok.1 read
      obtain ⟨next, -, read⟩ := bind_eq_ok.1 read
      cases next with
      | none => cases read
      | some cursor =>
          obtain ⟨⟨root, cursor⟩, rootRead, read⟩ := bind_eq_ok.1 read
          cases read
          exact levels_of_readRoot rootRead

theorem levels_of_readDocument {depth : Nat} {cursor after : Cursor} {document : Document}
    (read : readDocument depth cursor = .ok (document, after)) :
    2 * document.root.levels ≤ depth := by
  unfold readDocument at read
  dsimp only at read
  split_ifs at read
  · cases depth with
    | zero => cases read
    | succ depth =>
        exact levels_of_readDocumentMembers (by simp) (settled_eq_ok.1 read)
  · cases depth with
    | zero => cases read
    | succ depth =>
        obtain ⟨⟨document, cursor⟩, itemsRead, read⟩ := bind_eq_ok.1 read
        obtain ⟨_, -, read⟩ := bind_eq_ok.1 read
        cases read
        exact levels_of_readDocumentItems (settled_eq_ok.1 itemsRead)
  · obtain ⟨_, -, read⟩ := bind_eq_ok.1 read
    cases read

/-- The members of a table of texts. -/
theorem nestingOfMembers_texts (entries : List (String × String)) :
    Value.nestingOfMembers (entries.map fun entry => (entry.1, Value.text entry.2)) = 0 := by
  induction entries with
  | nil => rfl
  | cons entry rest ih => simp [Value.nestingOfMembers, Value.nesting, ih]

/-- Besides its root, a document has only its table of texts. -/
theorem nesting_toValue (document : Document) :
    document.toValue.nesting ≤ max 1 document.root.toValue.nesting + 1 := by
  unfold toValue
  split_ifs
  · simp only [Value.nesting, Value.nestingOfMembers]
    omega
  · simp [Value.nesting, Value.nestingOfMembers, nestingOfMembers_texts]

/-- A document that has been read can be written within the limit of the reader. -/
theorem nesting_of_ofJson {text : String} {document : Document}
    (read : ofJson text = .ok document) : document.toValue.nesting ≤ deepestNesting := by
  obtain ⟨⟨found, cursor⟩, documentRead, read⟩ := bind_eq_ok.1 read
  obtain ⟨_, -, read⟩ := bind_eq_ok.1 read
  cases read
  have levels := levels_of_readDocument documentRead
  have root := Node.nesting_toValue_le document.root
  have whole := nesting_toValue document
  -- The limit is odd, so half of it leaves a level for the list of children that may be added.
  simp only [deepestNesting] at levels ⊢
  omega

end Document

end Polyview
