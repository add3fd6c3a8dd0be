/-!
# Limits

A query from a client is read under two limits, so that no text can cost more than the operator of
a service allows: how deep groups nest, and how long the text is.
-/

namespace FilterQuery

/-- The limits under which a query is read. -/
structure Limits where
  /-- The number of groups that may be open at once. -/
  maxDepth : Nat := 32
  /-- The number of UTF-8 bytes of the text. -/
  maxLength : Nat := 8192
  deriving DecidableEq, Repr

instance : Inhabited Limits := ⟨{}⟩

end FilterQuery
