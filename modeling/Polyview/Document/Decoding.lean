import Polyview.Document.Basic
import Polyview.Json.Value

/-!
# Nodes from JSON values

A node is an object with its kind under `type`, or a list that starts with its kind. Other members
come by name in any order, or by place. Members with other names are passed over.
-/

namespace Polyview

open Json (Value Cause)

/-- The kinds of node. -/
inductive NodeKind where
  | text
  | field
  | stack
  | description
  deriving DecidableEq, Repr

namespace NodeKind

def all : List NodeKind := [.text, .field, .stack, .description]

def word : NodeKind → String
  | .text => "text"
  | .field => "text_field"
  | .stack => "vstack"
  | .description => "description"

def ofWord (word : String) : Except Cause NodeKind :=
  match all.find? (fun kind => kind.word == word) with
  | some kind => .ok kind
  | none => .error (.unknownKind word)

def ofValue : Value → Except Cause NodeKind
  | .text word => ofWord word
  | .number (.natural number) =>
      match all[number]? with
      | some kind => .ok kind
      | none => .error (.kindOutOfRange number)
  | other => .error (.wrongType other.found "variant identifier")

end NodeKind

namespace Node

/-- A text. -/
def textOf : Value → Except Cause String
  | .text plain => .ok plain
  | other => .error (.wrongType other.found "a string")

def optionalTextOf : Value → Except Cause (Option String)
  | .null => .ok none
  | other => some <$> textOf other

/-- The value of a member that must come only once. -/
def once {α : Type} (known : Option α) (name : String) (value : Except Cause α) :
    Except Cause (Option α) :=
  match known with
  | some _ => .error (.duplicateField name)
  | none => some <$> value

def required {α : Type} (known : Option α) (name : String) : Except Cause α :=
  match known with
  | some value => .ok value
  | none => .error (.missingField name)

def textOfMembers (content : Option String) (binding : Option (Option String)) :
    List (String × Value) → Except Cause Node
  | [] => .ok (.text (content.getD "") (binding.getD none))
  | (name, value) :: rest => do
      if name = "content" then
        textOfMembers (← once content name (textOf value)) binding rest
      else if name = "binding" then
        textOfMembers content (← once binding name (optionalTextOf value)) rest
      else
        textOfMembers content binding rest

def fieldOfMembers (title : Option String) (binding : Option (Option String))
    (initial : Option String) : List (String × Value) → Except Cause Node
  | [] => do
      return .field (← required title "title") (binding.getD none) (initial.getD "")
  | (name, value) :: rest => do
      if name = "title" then
        fieldOfMembers (← once title name (textOf value)) binding initial rest
      else if name = "binding" then
        fieldOfMembers title (← once binding name (optionalTextOf value)) initial rest
      else if name = "value" then
        fieldOfMembers title binding (← once initial name (textOf value)) rest
      else
        fieldOfMembers title binding initial rest

def descriptionOfMembers (source : Option String) (body : Option (Option String)) :
    List (String × Value) → Except Cause Node
  | [] => do
      return .description (← required source "source") (body.getD none)
  | (name, value) :: rest => do
      if name = "source" then
        descriptionOfMembers (← once source name (textOf value)) body rest
      else if name = "body" then
        descriptionOfMembers source (← once body name (optionalTextOf value)) rest
      else
        descriptionOfMembers source body rest

/-- Nothing more may follow the last place of a node written as a list. -/
def noMore (known : Nat) (wanted : String) : List Value → Except Cause Unit
  | [] => .ok ()
  | more => .error (.wrongLength (known + more.length) (wanted ++ " in sequence"))

def textOfItems : List Value → Except Cause Node
  | [] => .ok (.text "" none)
  | [content] => do
      return .text (← textOf content) none
  | content :: binding :: more => do
      let content ← textOf content
      let binding ← optionalTextOf binding
      noMore 2 "2 elements" more
      return .text content binding

def fieldOfItems : List Value → Except Cause Node
  | [] => .error (.wrongLength 0 "struct variant ViewSpec::TextField with 3 elements")
  | [title] => do
      return .field (← textOf title) none ""
  | [title, binding] => do
      let title ← textOf title
      return .field title (← optionalTextOf binding) ""
  | title :: binding :: initial :: more => do
      let title ← textOf title
      let binding ← optionalTextOf binding
      let initial ← textOf initial
      noMore 3 "3 elements" more
      return .field title binding initial

def descriptionOfItems : List Value → Except Cause Node
  | [] => .error (.wrongLength 0 "struct variant ViewSpec::Description with 2 elements")
  | [source] => do
      return .description (← textOf source) none
  | source :: body :: more => do
      let source ← textOf source
      let body ← optionalTextOf body
      noMore 2 "2 elements" more
      return .description source body

/-- The kind of a node from its members. A second `type` is a fault, and so is none. -/
def kindOfMembers (known : Option NodeKind) :
    List (String × Value) → Except Cause NodeKind
  | [] => required known "type"
  | (name, value) :: rest => do
      if name = "type" then
        kindOfMembers (← once known name (NodeKind.ofValue value)) rest
      else
        kindOfMembers known rest

mutual

/-- The node that a value describes. -/
def ofValue : Value → Except Cause Node
  | .object members => do
      match ← kindOfMembers none members with
      | .text => textOfMembers none none members
      | .field => fieldOfMembers none none none members
      | .stack => stackOfMembers none members
      | .description => descriptionOfMembers none none members
  | .list [] => .error (.missingField "type")
  | .list (kind :: items) => do
      match ← NodeKind.ofValue kind with
      | .text => textOfItems items
      | .field => fieldOfItems items
      | .stack => stackOfItems items
      | .description => descriptionOfItems items
  | .null => .error (.wrongType .null "internally tagged enum ViewSpec")
  | .boolean value => .error (.wrongType (.boolean value) "internally tagged enum ViewSpec")
  | .number value => .error (.wrongType value.found "internally tagged enum ViewSpec")
  | .text value => .error (.wrongType (.text value) "internally tagged enum ViewSpec")

def ofValues : List Value → Except Cause (List Node)
  | [] => .ok []
  | value :: rest => do
      let node ← ofValue value
      return node :: (← ofValues rest)

def childrenOf : Value → Except Cause (List Node)
  | .list items => ofValues items
  | .null => .error (.wrongType .null "a sequence")
  | .boolean value => .error (.wrongType (.boolean value) "a sequence")
  | .number value => .error (.wrongType value.found "a sequence")
  | .text value => .error (.wrongType (.text value) "a sequence")
  | .object _ => .error (.wrongType .map "a sequence")

def stackOfMembers (children : Option (List Node)) :
    List (String × Value) → Except Cause Node
  | [] => .ok (.stack (children.getD []))
  | (name, value) :: rest => do
      if name = "children" then
        match children with
        | some _ => .error (.duplicateField name)
        | none =>
            let nodes ← childrenOf value
            stackOfMembers (some nodes) rest
      else
        stackOfMembers children rest

def stackOfItems : List Value → Except Cause Node
  | [] => .ok (.stack [])
  | children :: more => do
      let nodes ← childrenOf children
      noMore 1 "1 element" more
      return .stack nodes

end

def ofMembers (kind : NodeKind) (members : List (String × Value)) : Except Cause Node :=
  match kind with
  | .text => textOfMembers none none members
  | .field => fieldOfMembers none none none members
  | .stack => stackOfMembers none members
  | .description => descriptionOfMembers none none members

def ofItems (kind : NodeKind) (items : List Value) : Except Cause Node :=
  match kind with
  | .text => textOfItems items
  | .field => fieldOfItems items
  | .stack => stackOfItems items
  | .description => descriptionOfItems items

end Node

end Polyview
