/-!
# Sets of code points

A character property is stored as an ascending list of inclusive ranges of code points.
-/

namespace Polyview.Text

/-- A set of code points: ascending inclusive ranges that do not overlap. -/
abbrev CodeSet := List (Nat × Nat)

/-- Membership in a set of code points. The search ends at the first range that starts later. -/
def CodeSet.holds : CodeSet → Nat → Bool
  | [], _ => false
  | (first, last) :: rest, code =>
      if code < first then false else decide (code ≤ last) || CodeSet.holds rest code

end Polyview.Text
