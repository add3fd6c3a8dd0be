import FilterQuery.Segment.Printer
import FilterQuery.Tree

/-!
# Writing a tree

Connectives are read from left to right without precedence, so a left operand needs no
parentheses, and a right operand needs them exactly when it joins two operands itself. A negated
group is written `!(…)`, and the query without clauses is the empty text.
-/

namespace FilterQuery.Tree

/-- The canonical text of a tree. -/
def render : Tree → String
  | .noop => ""
  | .leaf s => s.render
  | .binary connective l r =>
    l.render ++ connective.mark.toString ++
      (if r.isBinary then "(" ++ r.render ++ ")" else r.render)
  | .not t => "!(" ++ t.render ++ ")"

end FilterQuery.Tree
