import Polyview.Template.Helper

/-!
# Filling in templates

The elements of a template are filled in one after another with data. What fills in another template
that is included is a parameter here, so that filling in follows the structure of the elements.
-/

namespace Polyview.Template

open Json (Value)

/-- What an element is filled in with. -/
structure Setting where
  data : Value
  /-- The scopes of the blocks around the element, from the innermost one on. -/
  scopes : List Scope
  /-- The name of the template that the element stands in, unless a block is around it. -/
  template : Option String
  /-- What stands before each line of an included template but the first. -/
  indentation : List Char

namespace Setting

def start (data : Value) : Setting := ⟨data, [.outermost], none, []⟩

/-- The setting inside a block, with the scopes that the block opens. -/
def inside (setting : Setting) (opened : List Scope) : Setting :=
  { setting with scopes := opened ++ setting.scopes, template := none }

end Setting

/-- A text with an indentation after each line feed that something follows. -/
def indented (indentation : List Char) : List Char → List Char
  | [] => []
  | [c] => [c]
  | c :: rest =>
      if c = '\n' then c :: (indentation ++ indented indentation rest)
      else c :: indented indentation rest

/-- A text as it is put out in a setting. -/
def Setting.putOut (setting : Setting) (text : String) : String :=
  String.ofList (indented setting.indentation text.toList)

/-- What a helper without a body puts out. Converted texts are not indented. -/
def Setting.outputOf (setting : Setting) (helper : Helper) (name : String)
    (arguments : Arguments) : Except Cause String := do
  let value ← helper.value name arguments
  match helper with
  | .conversion _ => return shown value
  | _ => return setting.putOut (shown value)

/-- What an output tag puts out. A helper is meant rather than a value of the same name. -/
def Setting.output (setting : Setting) (head : Argument) : Except Cause String := do
  let name ← match head with
    | .reference reference => pure reference.written
    | head => (evaluate setting.data setting.scopes head).map (fun given => shown given.value)
  match helper? name with
  | some helper => setting.outputOf helper name ⟨[], []⟩
  | none =>
      let given ← evaluate setting.data setting.scopes head
      match given.value? with
      | some value => return setting.putOut (shown value)
      | none => throw (.missingValue given.written?)

def Setting.arguments (setting : Setting) (placed : List Argument)
    (named : List (String × Argument)) : Except Cause Arguments := do
  let placed ← evaluateAll setting.data setting.scopes placed
  let named ← evaluateNamed setting.data setting.scopes named
  return ⟨placed, named⟩

/-- The value that a block name stands for: where the block stands, if that is a place in the data.
-/
def Given.named (given : Given) (value : Value) : Option Value :=
  if given.place?.isSome then none else some value

/-- The names that a block gives for an item and its key. -/
def BlockNames.entries (names : BlockNames) (item : Option Value) (key : Value) :
    List (String × Option Value) :=
  match names with
  | .none => []
  | .item name => [(name, item)]
  | .itemAndKey name keyName => [(name, item), (keyName, some key)]

def itemScope (given : Given) (names : BlockNames) (keyName : String) (key : Value)
    (step : String) (position count : Nat) (item : Value) : Scope :=
  { base := match given.place? with
      | some outer => .place (outer ++ [step])
      | none => .value item
    names := names.entries (given.named item) key
    locals := [("first", .boolean (position == 0)), ("last", .boolean (position + 1 == count)),
      (keyName, key)] }

/-- The scopes for the items or members of a collection. -/
def Given.itemScopes? (given : Given) (names : BlockNames) : Option (List Scope) :=
  match given.value with
  | .list items =>
      some (items.zipIdx.map fun (item, position) =>
        itemScope given names "index" (.number (.natural position)) (Nat.repr position) position
          items.length item)
  | .object members =>
      some (members.zipIdx.map fun ((name, item), position) =>
        itemScope given names "key" (.text name) name position members.length item)
  | _ => none

def Given.scope (given : Given) (names : BlockNames) : Scope :=
  { base := given.base
    names := match names with
      | .item name => [(name, given.named given.value)]
      | _ => []
    locals := [] }

/-- The members of an object with further members, which replace those of the same names. -/
def withMembers (value : Value) (named : List (String × Given)) : Value :=
  let members := match value with
    | .object members => members
    | _ => []
  .object (named.foldl (fun members (name, given) =>
    Value.insertMember name given.value members) members)

/-- The scopes of an included template. An argument moves its base, and named arguments are added to
the members there. -/
def Setting.scopesFor (setting : Setting) (arguments : Arguments) :
    Except Cause (List Scope) := do
  let scopes := match arguments.placed.head?.bind Given.place? with
    | some names => [⟨.place names, [], []⟩]
    | none => setting.scopes
  if arguments.named.isEmpty then
    return scopes
  else
    let current ← (Reference.path false 0 [] "").find setting.data scopes
    return [⟨.value (withMembers current.value arguments.named), [], []⟩]

/-- A result whose failure has no place yet. -/
def raised {α : Type} (result : Except Cause α) : Except Failure α := result.mapError Cause.failure

mutual

/-- What an element puts out. What another template puts out is given by `nested`. -/
def fill (nested : String → Setting → Except Failure String) (setting : Setting) :
    Element → Except Failure String
  | .text text => .ok (setting.putOut text)
  | .output place head => (raised (setting.output head)).mapError (Failure.inside (some place))
  | .helper place (.mk name placed named) =>
      Except.mapError (Failure.inside (some place)) do
        let arguments ← raised (setting.arguments placed named)
        match helper? name with
        | some helper => raised (setting.outputOf helper name arguments)
        | none => throw (Cause.unknownHelper name).failure
  | .block place (.mk name placed named) names body inverse =>
      Except.mapError (Failure.inside place) do
        let arguments ← raised (setting.arguments placed named)
        match helper? name with
        | some (.condition expected) =>
            let given ← raised (arguments.placedAt "if" 0)
            let includeZero := match arguments.named? "includeZero" with
              | some (.boolean value) => value
              | _ => false
            if countsAsTrue includeZero given.value == expected then
              fillAll nested (setting.inside []) body
            else
              fillInverse nested (setting.inside []) (.ok "") inverse
        | some .each =>
            let given ← raised (arguments.placedAt "each" 0)
            match given.itemScopes? names, inverse.isNone with
            | some (scope :: scopes), _ =>
                let texts ← (scope :: scopes).mapM
                  (fun scope => fillAll nested (setting.inside [scope]) body)
                return String.join texts
            | some [], true => return ""
            | _, _ =>
                fillInverse nested (setting.inside [])
                  (.error (Cause.missingValue given.written?).failure) inverse
        | some .within =>
            let given ← raised (arguments.placedAt "with" 0)
            if countsAsTrue false given.value then
              fillAll nested (setting.inside [given.scope names]) body
            else
              fillInverse nested (setting.inside [])
                (.error (Cause.missingValue given.written?).failure) inverse
        | some .raw => fillAll nested (setting.inside []) body
        | some helper => raised (setting.outputOf helper name arguments)
        | none => throw (Cause.unknownHelper name).failure
  | .inclusion place name placed named indentation =>
      Except.mapError (Failure.inside (some place)) do
        let arguments ← raised (setting.arguments placed named)
        if setting.template = some name then
          throw Cause.selfInclusion.failure
        else
          let scopes ← raised (setting.scopesFor arguments)
          nested name { setting with scopes := scopes, indentation := indentation }

/-- What elements put out, one after another. -/
def fillAll (nested : String → Setting → Except Failure String) (setting : Setting) :
    List Element → Except Failure String
  | [] => .ok ""
  | element :: rest => do
      let text ← fill nested setting element
      return text ++ (← fillAll nested setting rest)

/-- What the inverse of a block puts out, if there is one. -/
def fillInverse (nested : String → Setting → Except Failure String) (setting : Setting)
    (otherwise : Except Failure String) : Option (List Element) → Except Failure String
  | none => otherwise
  | some elements => fillAll nested setting elements

end

end Polyview.Template
