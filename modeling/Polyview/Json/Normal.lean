import Polyview.Json.Value

/-!
# Values with their members in order

The order of an object's members carries no meaning. A value in normal form has the members of each
object in the order of their names, each name once.
-/

namespace Polyview.Json.Value

/-- Ordered members with one more member, which replaces a member of the same name. -/
def insertMember (name : String) (value : Value) : List (String × Value) → List (String × Value)
  | [] => [(name, value)]
  | member :: rest =>
      if name < member.1 then (name, value) :: member :: rest
      else if name = member.1 then (name, value) :: rest
      else member :: insertMember name value rest

mutual

/-- A value with its members in order. Of members with the same name the last one counts. -/
def normal : Value → Value
  | .list items => .list (normalItems items)
  | .object members => .object (normalMembers [] members)
  | value => value

def normalItems : List Value → List Value
  | [] => []
  | item :: rest => item.normal :: normalItems rest

def normalMembers (known : List (String × Value)) : List (String × Value) → List (String × Value)
  | [] => known
  | (name, value) :: rest => normalMembers (insertMember name value.normal known) rest

end

mutual

/-- Whether two values in normal form are the same. An integer differs from a floating-point number
even where both denote one number. -/
def same : Value → Value → Bool
  | .null, .null => true
  | .boolean first, .boolean second => first == second
  | .number first, .number second => first.same second
  | .text first, .text second => first == second
  | .list first, .list second => sameItems first second
  | .object first, .object second => sameMembers first second
  | _, _ => false

def sameItems : List Value → List Value → Bool
  | [], [] => true
  | first :: firsts, second :: seconds => first.same second && sameItems firsts seconds
  | _, _ => false

def sameMembers : List (String × Value) → List (String × Value) → Bool
  | [], [] => true
  | (name, first) :: firsts, (other, second) :: seconds =>
      name == other && first.same second && sameMembers firsts seconds
  | _, _ => false

end

end Polyview.Json.Value
