import FilterQuery.Operator

/-!
# Segments

A SEGMENT is what one clause says: compare the attribute at a path with some values. This file
fixes the data, how a segment is built by hand, and the views that the rest of the library reads.

* the first path component names the attribute (`name`), the others lead on from it (`subpath`);
* a segment without values compares nothing; with directives alone it only asks for an order.
-/

namespace FilterQuery

/-- One comparison, with the modifiers written behind its path. -/
structure Segment where
  path : List String
  operator : Operator := .standard
  negated : Bool := false
  directives : List String := []
  values : List String := []
  deriving DecidableEq, Repr

namespace Segment

/-! ## 1. Building -/

/-- The segment that compares a path with values by the standard operator. -/
def of (path values : List String) : Segment :=
  { path, values }

/-- The same comparison by another operator. -/
def withOperator (s : Segment) (operator : Operator) : Segment :=
  { s with operator }

/-- The opposite comparison. -/
def negate (s : Segment) : Segment :=
  { s with negated := !s.negated }

/-- The same comparison with one more directive, behind the others. -/
def withDirective (s : Segment) (directive : String) : Segment :=
  { s with directives := s.directives ++ [directive] }

@[simp] theorem negate_negate (s : Segment) : s.negate.negate = s := by
  simp [negate]

/-! ## 2. Views -/

/-- The name of the attribute; empty when there is no path. -/
def name (s : Segment) : String :=
  s.path.head?.getD ""

/-- The path components behind the attribute's name. -/
def subpath (s : Segment) : List String :=
  s.path.tail

/-- A segment that carries directives and compares nothing. -/
def isDirectiveOnly (s : Segment) : Bool :=
  s.values.isEmpty && !s.directives.isEmpty

/-- Whether a directive is among those of the segment, letter for letter. -/
def hasDirective (s : Segment) (directive : String) : Bool :=
  s.directives.contains directive

end Segment

end FilterQuery
