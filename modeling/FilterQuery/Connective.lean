/-!
# Connectives

Two operands of a query are joined by `&` (both hold) or `;` (one of them holds). Neither binds
tighter than the other.
-/

namespace FilterQuery

/-- What joins two operands. -/
inductive Connective where
  | both
  | either
  deriving DecidableEq, Repr

namespace Connective

/-- The mark of a connective. -/
def mark : Connective → Char
  | .both => '&'
  | .either => ';'

end Connective

end FilterQuery
