import FilterQuery.Alphabet
import FilterQuery.Error
import FilterQuery.Segment

/-!
# Reading a clause

The text of a clause has three parts, cut off from left to right:

* the LEADING MARKS, the `!` at its start;
* the HEAD, up to the first comparison mark: path components between `.`, then directives, each
  behind a `:`;
* the COMPARISON, which is either absent or made of negation marks, the longest symbol that fits
  and the values between `,`.

From the end of the path a `not` is taken off, and then a keyword: they say how to compare, not
what.
Each negation mark and each `not` turns the clause into its opposite, so only their parity counts.

The parts are examined in the order in which they are written, so the first fault from the left
decides; the reserved components come last.
-/

namespace FilterQuery.Segment

/-! ## 1. The head -/

/-- The path and the directives of a clause, reserved components still on the path. -/
structure Head where
  path : List String
  directives : List String
  deriving DecidableEq, Repr

/-- A path component holds at least one character. -/
def readComponent (piece : List Char) : Except ClauseFault String :=
  if piece = [] then .error .emptyComponent else .ok (String.ofList piece)

/-- A directive holds at least one character and no dot: no path goes on behind it. -/
def readDirective (piece : List Char) : Except ClauseFault String :=
  if '.' ∈ piece then .error .componentAfterDirective
  else if piece = [] then .error .emptyDirective
  else .ok (String.ofList piece)

/-- The head of a clause: the path up to the first `:`, one directive behind each. -/
def readHead (text : List Char) : Except ClauseFault Head :=
  match text.splitOn ':' with
  | [] | [[]] => .error .noPath
  | path :: directives => do
    let path ← (path.splitOn '.').mapM readComponent
    let directives ← directives.mapM readDirective
    return { path, directives }

/-! ## 2. The comparison -/

/-- The longest symbol at the start of a text, and what follows it. -/
def readSymbol : List Char → Option (Operator × List Char)
  | '=' :: '=' :: rest => some (.exact, rest)
  | '=' :: rest => some (.iexact, rest)
  | '<' :: '=' :: rest => some (.lessOrEqual, rest)
  | '<' :: rest => some (.lessThan, rest)
  | '>' :: '=' :: rest => some (.greaterOrEqual, rest)
  | '>' :: rest => some (.greaterThan, rest)
  | _ => none

/-- The number of negation marks at the start of a text. -/
def markCount (text : List Char) : Nat :=
  (text.takeWhile (· == '!')).length

/-- A text behind its leading negation marks. -/
def afterMarks (text : List Char) : List Char :=
  text.dropWhile (· == '!')

/-- How a clause compares, and with which values. -/
structure Comparison where
  marks : Nat
  operator : Operator
  values : List String
  deriving DecidableEq, Repr

/-- The values of a comparison: every `,` separates two, so there is at least one. -/
def readValues (text : List Char) : List String :=
  (text.splitOn ',').map String.ofList

/-- The comparison at the end of a clause. A clause may stop before it. -/
def readComparison (text : List Char) : Except ClauseFault Comparison :=
  match text with
  | [] => .ok { marks := 0, operator := .standard, values := [] }
  | _ =>
    match readSymbol (afterMarks text) with
    | some (operator, rest) =>
      .ok { marks := markCount text, operator, values := readValues rest }
    | none => .error (.unknownOperator (markCount text))

/-! ## 3. Reserved components -/

/-- The path without a trailing `not`, and whether there was one. -/
def dropNegation (path : List String) : List String × Bool :=
  if path.getLast? = some Operator.negationWord then (path.dropLast, true) else (path, false)

/-- The path without a trailing keyword, and the operator that it spelled. -/
def dropKeyword (path : List String) : List String × Option Operator :=
  match path.getLast?.bind Operator.ofKeyword? with
  | some operator => (path.dropLast, some operator)
  | none => (path, none)

/-- The segment of a head and a comparison, with `marks` negation marks in front of the head.

    A keyword stands in for the standard symbol only, and some component has to be left. -/
def assemble (marks : Nat) (head : Head) (comparison : Comparison) :
    Except ClauseFault Segment :=
  let (affirmed, negation) := dropNegation head.path
  let (path, keyword) := dropKeyword affirmed
  if keyword.isSome && comparison.operator != .standard then .error .twoOperators
  else if path = [] then .error .noPath
  else .ok {
    path
    operator := keyword.getD comparison.operator
    negated := (marks + comparison.marks + negation.toNat) % 2 == 1
    directives := head.directives
    values := comparison.values }

/-! ## 4. The clause -/

/-- Reads the text of one clause. -/
def read (text : List Char) : Except ClauseFault Segment := do
  let body := afterMarks text
  let head ← readHead (body.takeWhile (fun c => !isComparisonMark c))
  let comparison ← readComparison (body.dropWhile (fun c => !isComparisonMark c))
  assemble (markCount text) head comparison

example : read "!age.gte.not:desc=30,40".toList =
    .ok { path := ["age"], operator := .greaterOrEqual, directives := ["desc"],
          values := ["30", "40"] } := by cbv

example : read "a!!=b".toList = .ok { path := ["a"], values := ["b"] } := by cbv

example : read "a.lt>3".toList = .error .twoOperators := by cbv

example : read "a!b".toList = .error (.unknownOperator 1) := by cbv

/-- Reads one clause; a refusal quotes the whole of it. -/
def parse (text : String) : Except QueryFault Segment :=
  match read text.toList with
  | .ok s => .ok s
  | .error fault => .error (.badClause text fault)

end FilterQuery.Segment
