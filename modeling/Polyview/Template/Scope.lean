import Polyview.Json.Normal
import Polyview.Template.Failure

/-!
# Scopes

A block may stand at a place in the data, or at a value of its own. It may give names to values, and
variables to its body. References are looked up in the scopes of the blocks around them.
-/

namespace Polyview.Template

open Json (Value)

/-- Where a block stands. -/
inductive Base where
  /-- At the end of a path of names from the data as a whole. -/
  | place (names : List String)
  | value (value : Value)

/-- What a block gives to its body. -/
structure Scope where
  base : Base
  /-- The names that the block gives. One without a value of its own stands for where the block
  stands. -/
  names : List (String × Option Value)
  locals : List (String × Value)

/-- The scope outside of all blocks. -/
def Scope.outermost : Scope := ⟨.place [], [], []⟩

/-- A value as an argument or as output: where in the data it is, if it is there, and how it was
written, if it was written as a reference. -/
structure Given where
  /-- Nothing for a value that is missing. -/
  value? : Option Value
  place? : Option (List String)
  written? : Option String

/-- A given value, where a missing one counts as null. -/
def Given.value (given : Given) : Value := given.value?.getD .null

def Given.computed (value : Value) : Given := ⟨some value, none, none⟩

def Given.base (given : Given) : Base :=
  match given.place? with
  | some names => .place names
  | none => .value given.value

/-- The position that a name spells in a list of the given length. Digits that spell neither a place
in the list nor a number of sixty-four bits spell no position. -/
def positionOf? (length : Nat) (name : String) : Option Nat :=
  let digits := match name.toList with
    | '+' :: digits => digits
    | digits => digits
  if digits.isEmpty || !digits.all Char.isDigit then
    none
  else
    let position := Json.decimalValue digits
    if position < max length (Nat.pow 2 64) then some position else none

def step (value : Option Value) (name : String) : Except Cause (Option Value) :=
  match value with
  | some (.list items) =>
      match positionOf? items.length name with
      | some position => .ok items[position]?
      | none => .error (.nameForList name)
  | some (.object members) => .ok (members.lookup name)
  | _ => .ok none

def follow (value : Value) (names : List String) : Except Cause (Option Value) :=
  names.foldlM step (some value)

def atPlace (data : Value) (names : List String) (written : String) : Except Cause Given := do
  match ← follow data names with
  | some value => return ⟨some value, some names, some written⟩
  | none => return ⟨none, none, some written⟩

/-- The value that names lead to from a value outside the data. -/
def fromValue (value : Value) (names : List String) (written : String) : Except Cause Given := do
  return ⟨← follow value names, none, some written⟩

def fromBase (data : Value) (base : Base) (names : List String) (written : String) :
    Except Cause Given :=
  match base with
  | .place outer => atPlace data (outer ++ names) written
  | .value value => fromValue value names written

/-- The innermost scope that gives a name, with what it stands for. -/
def nameGiver? (scopes : List Scope) (name : String) : Option (Scope × Option Value) :=
  scopes.findSome? fun scope => (scope.names.lookup name).map (fun value => (scope, value))

/-- The names of a path after one that a block has given. Going up counts as the first name. -/
def afterGivenName (level : Nat) (names : List String) : List String :=
  if level = 0 then names.drop 1 else names

/-- The value that a reference means. The scopes are given from the innermost one on. -/
def Reference.find (data : Value) (scopes : List Scope) : Reference → Except Cause Given
  | .variable level name written =>
      .ok ⟨(scopes[level]?).bind (fun scope => scope.locals.lookup name), none, some written⟩
  | .path true _ names written => atPlace data names written
  | .path false level names written =>
      match names.head?.bind (nameGiver? scopes) with
      | some (_, some value) => fromValue value (afterGivenName level names) written
      | some (scope, none) =>
          let outer := match scope.base with
            | .place outer => outer
            | .value _ => []
          atPlace data (outer ++ afterGivenName level names) written
      | none =>
          let scope := (scopes[level]? <|> scopes.head?).getD .outermost
          fromBase data scope.base names written

end Polyview.Template
