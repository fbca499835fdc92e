import Polyview.Document.Printer
import Polyview.Proofs.Json.Nesting
import Polyview.Proofs.Json.Spelling

/-!
# Decoding the values of nodes

The value that describes a node is an object that starts with the kind of the node. Decoding it
gives the node back: members that were left out have the defaults that the reader assumes.
-/

namespace Polyview

open Json (Value)

namespace Node

/-- The kind of a node. -/
def kind : Node → NodeKind
  | .text _ _ => .text
  | .field _ _ _ => .field
  | .stack _ => .stack
  | .description _ _ => .description

/-- The members that describe a node besides its kind. -/
def fields : Node → List (String × Value)
  | .text content binding => ("content", .text content) :: optionalMember "binding" binding
  | .field title binding value =>
      ("title", .text title) :: (optionalMember "binding" binding ++
        optionalMember "value" (if value = "" then none else some value))
  | .stack children => [("children", .list (toValues children))]
  | .description source body => ("source", .text source) :: optionalMember "body" body

theorem toValue_eq_object (node : Node) :
    node.toValue = .object (("type", .text node.kind.word) :: node.fields) := by
  cases node <;> simp [toValue, kind, fields, NodeKind.word]

theorem ofWord_word (kind : NodeKind) : NodeKind.ofWord kind.word = .ok kind := by
  cases kind <;> rfl

/-- The name of the kind's member is the name of no other member. -/
theorem name_ne_type_of_mem_fields (node : Node) :
    ∀ field ∈ node.fields, field.1 ≠ "type" := by
  cases node with
  | text content binding => cases binding <;> simp [fields, optionalMember]
  | field title binding value =>
      cases binding <;> by_cases empty : value = "" <;> simp [fields, optionalMember, empty]
  | stack children => simp [fields]
  | description source body => cases body <;> simp [fields, optionalMember]

/-- Decoding an object passes over its kind. -/
theorem ofMembers_type (kind : NodeKind) (word : Value) (members : List (String × Value)) :
    ofMembers kind (("type", word) :: members) = ofMembers kind members := by
  cases kind <;> simp [ofMembers, textOfMembers, fieldOfMembers, stackOfMembers,
    descriptionOfMembers]

theorem kindOfMembers_some (kind : NodeKind) {members : List (String × Value)}
    (untyped : ∀ member ∈ members, member.1 ≠ "type") :
    kindOfMembers (some kind) members = .ok kind := by
  induction members with
  | nil => rfl
  | cons member rest ih =>
      have first := untyped member (by simp)
      simpa [kindOfMembers, first] using ih (fun other later => untyped other (by simp [later]))

/-- A node whose members give it back is given back by its value. -/
theorem ofValue_toValue_of_fields {node : Node}
    (decodes : ofMembers node.kind node.fields = .ok node) :
    ofValue node.toValue = .ok node := by
  have kindFound : kindOfMembers none (("type", .text node.kind.word) :: node.fields) =
      .ok node.kind := by
    have later := kindOfMembers_some node.kind node.name_ne_type_of_mem_fields
    simpa [kindOfMembers, once, NodeKind.ofValue, ofWord_word] using later
  rw [toValue_eq_object, ofValue, kindFound]
  have passed := ofMembers_type node.kind (.text node.kind.word) node.fields
  rw [decodes] at passed
  cases kindIs : node.kind <;> simpa [ofMembers, kindIs] using passed

mutual

/-- The members of a node give it back. -/
theorem ofMembers_fields : (node : Node) → ofMembers node.kind node.fields = .ok node
  | .text content binding => by
      cases binding <;> rfl
  | .field title binding value => by
      cases binding <;> by_cases empty : value = "" <;>
        simp [kind, fields, ofMembers, fieldOfMembers, optionalMember, empty, once, required,
          textOf, optionalTextOf]
  | .stack children => by
      have decoded := ofValues_toValues children
      simp [kind, fields, ofMembers, stackOfMembers, childrenOf, decoded]
  | .description source body => by
      cases body <;> rfl

theorem ofValues_toValues : (nodes : List Node) → ofValues (toValues nodes) = .ok nodes
  | [] => rfl
  | node :: rest => by
      have first := ofValue_toValue_of_fields (ofMembers_fields node)
      have later := ofValues_toValues rest
      simp [toValues, ofValues, first, later]

end

end Node

end Polyview
