/-!
# TOML values

What a TOML text says, as far as manifests need it: numbers, dates and times are told from
everything else but not kept.
-/

namespace Polyview.Toml

/-- A TOML value. -/
inductive Value where
  | text (text : String)
  | boolean (value : Bool)
  /-- A number, a date or a time. -/
  | quantity
  | list (items : List Value)
  | table (members : List (String × Value))
  deriving Repr

end Polyview.Toml
