/-!
# Values

What a segment compares with reaches the data store as a typed value, bound to a placeholder and
never written into a statement.
-/

namespace FilterQuery

/-- A typed value. -/
inductive Value where
  | boolean (b : Bool)
  | integer (n : Int64)
  | float (x : Float)
  | text (s : String)
  deriving DecidableEq, Repr

end FilterQuery
