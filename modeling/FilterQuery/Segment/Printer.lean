import FilterQuery.Segment

/-!
# Writing a segment

Every segment has one CANONICAL text. It prefers symbols and falls back on a keyword where a symbol
would not read back:

* without values there is no symbol, so an operator other than the standard one is written as a
  keyword;
* the operators that have no symbol are written as keywords;
* a reserved last component would be taken off by the reader. A keyword behind it keeps it -- but a
  trailing `not` in front of values is kept by a second `not`, with the leading mark turned over,
  so that the symbol can stay (`isNotEscaped`).
-/

namespace FilterQuery.Segment

/-- The last path component; empty when there is no path. -/
def lastComponent (s : Segment) : String :=
  s.path.getLast?.getD ""

/-- A trailing `not` that a second `not` keeps on the path. -/
def isNotEscaped (s : Segment) : Bool :=
  s.lastComponent == Operator.negationWord && !s.values.isEmpty && s.operator.symbol?.isSome

/-- Whether the operator is written as a keyword. -/
def usesKeyword (s : Segment) : Bool :=
  if s.values.isEmpty then
    s.operator != .standard || Operator.isReserved s.lastComponent
  else
    s.operator.symbol?.isNone || (Operator.isReserved s.lastComponent && !s.isNotEscaped)

/-- The symbol in front of the values; a keyword goes with the standard one. -/
def writtenSymbol (s : Segment) : String :=
  if s.usesKeyword then "=" else s.operator.symbol?.getD "="

/-- The canonical text of a segment. -/
def render (s : Segment) : String :=
  (if s.negated != s.isNotEscaped then "!" else "") ++
    ".".intercalate s.path ++
    (if s.isNotEscaped then ".not" else "") ++
    (if s.usesKeyword then "." ++ s.operator.keyword else "") ++
    String.join (s.directives.map (":" ++ ·)) ++
    (if s.values.isEmpty then "" else s.writtenSymbol ++ ",".intercalate s.values)

example : render { path := ["size", "in"], values := ["3"] } = "size.in.iexact=3" := by cbv

example : render { path := ["knot", "not"], operator := .exact, values := ["3"] } =
    "!knot.not.not==3" := by cbv

example : render { path := ["created"], directives := ["desc"] } = "created:desc" := by cbv

end FilterQuery.Segment
