import Polyview.Escape.Markup
import Polyview.Escape.TomlString
import Polyview.Escape.TypeName
import Polyview.Json.Printer
import Polyview.Template.Scope

/-!
# Helpers

What a tag can call. Some helpers compute a value from their arguments, some convert a text, and
some decide how often and in which scope the body of their block is filled in.
-/

namespace Polyview.Template

open Json (Value)

/-- A test of one or two values. -/
inductive Test where
  | equal
  | unequal
  | greater
  | greaterOrEqual
  | less
  | lessOrEqual
  | both
  | either
  | negation
  deriving DecidableEq, Repr

/-- A conversion of a text. -/
inductive Conversion where
  /-- The identifier of a type. -/
  | typeName
  /-- Words in lower case, joined by low lines. -/
  | snakeCase
  /-- The text of an attribute in markup. -/
  | markup
  /-- A quoted string of a manifest. -/
  | quotation
  deriving DecidableEq, Repr

/-- What a tag can call. -/
inductive Helper where
  /-- The body if the argument counts as true, or as false, and otherwise the inverse. -/
  | condition (expected : Bool)
  /-- The body once for each item or member of the argument. -/
  | each
  /-- The body with the argument as its data. -/
  | within
  /-- The item or member of a collection. -/
  | lookup
  /-- The body as it stands. -/
  | raw
  /-- Nothing: what is given goes to a log. -/
  | log
  /-- The number of items, members, or bytes. -/
  | size
  | test (test : Test)
  | conversion (conversion : Conversion)
  deriving DecidableEq, Repr

/-- The helpers by name. -/
def helpers : List (String × Helper) :=
  [("if", .condition true), ("unless", .condition false), ("each", .each), ("with", .within),
    ("lookup", .lookup), ("raw", .raw), ("log", .log), ("len", .size),
    ("eq", .test .equal), ("ne", .test .unequal), ("gt", .test .greater),
    ("gte", .test .greaterOrEqual), ("lt", .test .less), ("lte", .test .lessOrEqual),
    ("and", .test .both), ("or", .test .either), ("not", .test .negation),
    ("type_name", .conversion .typeName), ("snake_case", .conversion .snakeCase),
    ("xml", .conversion .markup), ("toml_string", .conversion .quotation)]

def helper? (name : String) : Option Helper := helpers.lookup name

mutual

/-- A value as output. A text stands for itself, nothing is written for null, and an object is not
shown in detail. -/
def shownChars : Value → List Char
  | .null => []
  | .boolean true => ['t', 'r', 'u', 'e']
  | .boolean false => ['f', 'a', 'l', 's', 'e']
  | .number value => Json.writtenNumber value
  | .text value => value.toList
  | .list items => '[' :: shownItems items ++ [']']
  | .object _ => ['[', 'o', 'b', 'j', 'e', 'c', 't', ']']

/-- The items of a list as output, with commas between them. -/
def shownItems : List Value → List Char
  | [] => []
  | [item] => shownChars item
  | item :: rest => shownChars item ++ ',' :: ' ' :: shownItems rest

end

/-- A value as output. -/
def shown (value : Value) : String := String.ofList (shownChars value)

/-- Whether a floating-point number is neither zero nor too small for full precision. -/
def isSizable (value : Float) : Bool := Float.ofScientific 22250738585072014 true 324 ≤ value.abs

/-- Whether a value counts as true. With `includeZero`, every number does. -/
def countsAsTrue (includeZero : Bool) : Value → Bool
  | .null => false
  | .boolean value => value
  | .number (.natural value) => includeZero || value != 0
  | .number (.negative value) => includeZero || value != 0
  | .number (.floating value) => includeZero || isSizable value
  | .text value => !value.isEmpty
  | .list items => !items.isEmpty
  | .object members => !members.isEmpty

def Conversion.apply (conversion : Conversion) (text : String) : String :=
  match conversion with
  | .typeName => TypeName.ofName text
  | .snakeCase => String.ofList (Text.snakeCase text.toList)
  | .markup => Markup.attributeText text
  | .quotation => TomlString.quote text

/-- The arguments of a helper, by place and by name. -/
structure Arguments where
  placed : List Given
  named : List (String × Given)

namespace Arguments

/-- The argument at a position, which the named helper cannot do without. -/
def placedAt (arguments : Arguments) (helper : String) (position : Nat) : Except Cause Given :=
  match arguments.placed[position]? with
  | some given => .ok given
  | none => .error (.missingArgument helper position)

/-- The argument with a name. Of several the last one counts. -/
def named? (arguments : Arguments) (name : String) : Option Value :=
  (arguments.named.reverse.lookup name).map Given.value

/-- The text that a conversion is given. Anything but a text counts as the empty text. -/
def text (arguments : Arguments) : String :=
  match arguments.placed.head?.map Given.value with
  | some (.text text) => text
  | _ => ""

/-- The operand at a position, which has a name and must be a value that is there. -/
def operand (arguments : Arguments) (helper name : String) (position : Nat) :
    Except Cause Value :=
  match arguments.placed[position]?.bind Given.value? with
  | some value => .ok value
  | none => .error (.missingOperand helper name)

def integer (arguments : Arguments) (helper name : String) (position : Nat) :
    Except Cause Int := do
  match ← arguments.operand helper name position with
  | .number (.natural value) =>
      if value < Nat.pow 2 63 then return value else throw (.unfitOperand helper name "i64")
  | .number (.negative value) => return -value
  | _ => throw (.unfitOperand helper name "i64")

def compareValues (arguments : Arguments) (helper : String) (relation : Value → Value → Bool) :
    Except Cause Bool := do
  let first ← arguments.operand helper "x" 0
  let second ← arguments.operand helper "y" 1
  return relation first second

/-- A relation between the first two operands, which must be integers. -/
def compareIntegers (arguments : Arguments) (helper : String) (relation : Int → Int → Bool) :
    Except Cause Bool := do
  let first ← arguments.integer helper "x" 0
  let second ← arguments.integer helper "y" 1
  return relation first second

end Arguments

def Test.result (test : Test) (helper : String) (arguments : Arguments) : Except Cause Bool :=
  match test with
  | .equal => arguments.compareValues helper Value.same
  | .unequal => arguments.compareValues helper (fun first second => !first.same second)
  | .greater => arguments.compareIntegers helper (fun first second => second < first)
  | .greaterOrEqual => arguments.compareIntegers helper (fun first second => second ≤ first)
  | .less => arguments.compareIntegers helper (fun first second => first < second)
  | .lessOrEqual => arguments.compareIntegers helper (fun first second => first ≤ second)
  | .both =>
      arguments.compareValues helper
        (fun first second => countsAsTrue false first && countsAsTrue false second)
  | .either =>
      arguments.compareValues helper
        (fun first second => countsAsTrue false first || countsAsTrue false second)
  | .negation => (arguments.operand helper "x" 0).map (fun value => !countsAsTrue false value)

def memberUnder (collection key : Value) : Value :=
  match collection, key with
  | .list items, .number (.natural position) => items[position]?.getD .null
  | .object members, .text name => (members.lookup name).getD .null
  | _, _ => .null

def logLevels : List String := ["error", "warn", "info", "debug", "trace"]

/-- What is noted under a level goes to a log, which is not part of the output. -/
def checkLevel (arguments : Arguments) : Except Cause Unit :=
  match arguments.named? "level" with
  | some (.text level) =>
      if logLevels.contains (level.map Char.toLower) then .ok () else .error (.unknownLevel level)
  | _ => .ok ()

def sizeOf : Value → Nat
  | .list items => items.length
  | .object members => members.length
  | .text text => text.utf8ByteSize
  | _ => 0

/-- The value of a helper without a body, called by the given name. -/
def Helper.value (helper : Helper) (name : String) (arguments : Arguments) :
    Except Cause Value := do
  match helper with
  | .condition _ =>
      let _ ← arguments.placedAt "if" 0
      return .text ""
  | .each =>
      let _ ← arguments.placedAt "each" 0
      return .text ""
  | .within =>
      let given ← arguments.placedAt "with" 0
      if countsAsTrue false given.value then
        return .text ""
      else
        throw (.missingValue given.written?)
  | .lookup =>
      let collection ← arguments.placedAt "lookup" 0
      let key ← arguments.placedAt "lookup" 1
      match memberUnder collection.value key.value with
      | .null => throw (.missingValue none)
      | value => return value
  | .raw => return .text ""
  | .log =>
      checkLevel arguments
      return .text ""
  | .size => return .number (.natural (sizeOf (← arguments.operand name "x" 0)))
  | .test kind => return .boolean (← kind.result name arguments)
  | .conversion rule => return .text (rule.apply arguments.text)

mutual

def evaluate (data : Value) (scopes : List Scope) : Argument → Except Cause Given
  | .literal value => .ok (.computed value)
  | .reference reference => reference.find data scopes
  | .call call => (evaluateCall data scopes call).map Given.computed

/-- The value of a call. Its arguments come before its helper. -/
def evaluateCall (data : Value) (scopes : List Scope) : Call → Except Cause Value
  | .mk name placed named => do
      let placed ← evaluateAll data scopes placed
      let named ← evaluateNamed data scopes named
      match helper? name with
      | some helper => helper.value name ⟨placed, named⟩
      | none => throw (.unknownHelper name)

def evaluateAll (data : Value) (scopes : List Scope) : List Argument → Except Cause (List Given)
  | [] => .ok []
  | argument :: rest => do
      let given ← evaluate data scopes argument
      return given :: (← evaluateAll data scopes rest)

def evaluateNamed (data : Value) (scopes : List Scope) :
    List (String × Argument) → Except Cause (List (String × Given))
  | [] => .ok []
  | (name, argument) :: rest => do
      let given ← evaluate data scopes argument
      return (name, given) :: (← evaluateNamed data scopes rest)

end

end Polyview.Template
