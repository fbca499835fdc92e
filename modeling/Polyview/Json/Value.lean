import Polyview.Json.Number

/-!
# JSON values
-/

namespace Polyview.Json

/-- A JSON value. The members of an object stay in their order, repeated names included. -/
inductive Value where
  | null
  | boolean (value : Bool)
  | number (value : Number)
  | text (value : String)
  | list (items : List Value)
  | object (members : List (String × Value))

def Value.found : Value → Found
  | .null => .null
  | .boolean value => .boolean value
  | .number value => value.found
  | .text value => .text value
  | .list _ => .sequence
  | .object _ => .map

end Polyview.Json
