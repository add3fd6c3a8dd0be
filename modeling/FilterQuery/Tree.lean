import FilterQuery.Connective
import FilterQuery.Segment

/-!
# Query trees

A query is a tree of segments, joined by connectives and negated in groups.

* `noop` is the query without clauses; it matches everything;
* `negate` folds a negation into the tree where it can: a segment turns over its own flag, and a
  negation that is there already is taken away;
* `leaves` are the segments from left to right. `Tree/Walk.lean` finds the same ones step by step.
-/

namespace FilterQuery

/-- A query as a tree. -/
inductive Tree where
  | noop
  | leaf (segment : Segment)
  | binary (connective : Connective) (left right : Tree)
  | not (operand : Tree)
  deriving DecidableEq, Repr

namespace Tree

/-- The opposite of a tree, with the negation folded in where possible. -/
def negate : Tree → Tree
  | .leaf s => .leaf s.negate
  | .not t => t
  | t => .not t

/-- The segments of a tree from left to right. -/
def leaves : Tree → List Segment
  | .noop => []
  | .leaf s => [s]
  | .binary _ l r => l.leaves ++ r.leaves
  | .not t => t.leaves

/-- The number of nodes of a tree. -/
def size : Tree → Nat
  | .noop => 1
  | .leaf _ => 1
  | .binary _ l r => l.size + r.size + 1
  | .not t => t.size + 1

/-- Whether two operands are joined at the root. -/
def isBinary : Tree → Bool
  | .binary .. => true
  | _ => false

end Tree

end FilterQuery
