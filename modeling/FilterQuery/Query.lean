import FilterQuery.Tree.Printer
import FilterQuery.Tree.Reader
import FilterQuery.Tree.Walk

/-!
# Queries

A query keeps the text that it was read from beside its tree. Reading under given limits is
`Query.parse`; `Query.render` is the canonical text, which need not be the one it was read from.
-/

namespace FilterQuery

/-- A query: the text that was given and the tree that it says. -/
structure Query where
  text : String
  root : Tree
  deriving DecidableEq, Repr

namespace Query

/-- Reads a query under limits. -/
def parse (limits : Limits) (text : String) : Except Error Query :=
  match Tree.parse limits text with
  | .ok root => .ok { text, root }
  | .error fault => .error (.malformed fault)

/-- Whether a query filters nothing because it has no clauses. -/
def isMatchAll (q : Query) : Bool :=
  q.root == .noop

/-- The segments of a query, in the order of a walk through its tree. -/
def segments (q : Query) : List Segment :=
  (Walk.of q.root).toList

/-- The canonical text of a query. -/
def render (q : Query) : String :=
  q.root.render

end Query

end FilterQuery
