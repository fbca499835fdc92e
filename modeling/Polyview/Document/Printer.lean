import Polyview.Document.Decoding
import Polyview.Json.Printer

/-!
# Writing documents

A document is written as an object. Members that would say nothing are left out: an empty table, a
binding or body that is none, and the empty value of a field.
-/

namespace Polyview

open Json (Value)

def optionalMember (name : String) : Option String → List (String × Value)
  | none => []
  | some text => [(name, .text text)]

mutual

def Node.toValue : Node → Value
  | .text content binding =>
      .object ([("type", .text "text"), ("content", .text content)] ++
        optionalMember "binding" binding)
  | .field title binding value =>
      .object ([("type", .text "text_field"), ("title", .text title)] ++
        optionalMember "binding" binding ++
          optionalMember "value" (if value = "" then none else some value))
  | .stack children =>
      .object [("type", .text "vstack"), ("children", .list (Node.toValues children))]
  | .description source body =>
      .object ([("type", .text "description"), ("source", .text source)] ++
        optionalMember "body" body)

def Node.toValues : List Node → List Value
  | [] => []
  | node :: rest => node.toValue :: Node.toValues rest

end

namespace Document

def toValue (document : Document) : Value :=
  let root := ("root", document.root.toValue)
  if document.state.entries.isEmpty then
    .object [root]
  else
    .object [("state", .object (document.state.entries.map
      (fun entry => (entry.1, .text entry.2)))), root]

/-- The shortest text of a document. -/
def compact (document : Document) : String := document.toValue.compact

/-- The text of a document, laid out for people. -/
def pretty (document : Document) : String := document.toValue.pretty

end Document

end Polyview
