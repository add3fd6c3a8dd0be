/-!
# The marks of the query language

Every character of a query is either a mark or text. The marks fall into three classes:

* GROUPING marks (`&`, `;`, `(`, `)`) join clauses into a tree and never belong to a clause;
* COMPARISON marks (`!`, `=`, `<`, `>`) end the head of a clause;
* the HEAD marks `.` and `:` cut the head into path components and directives.

What is left over may stand in a path component or a directive (`isWordChar`).
-/

namespace FilterQuery

/-- The marks that join and group clauses. -/
def isGroupingMark (c : Char) : Bool :=
  c == '&' || c == ';' || c == '(' || c == ')'

/-- The marks that may start the comparison of a clause. -/
def isComparisonMark (c : Char) : Bool :=
  c == '!' || c == '=' || c == '<' || c == '>'

/-- The characters of path components and directives. -/
def isWordChar (c : Char) : Bool :=
  !isComparisonMark c && c != '.' && c != ':'

end FilterQuery
