import FilterQuery.Value

/-!
# Predicates

The condition of a statement is a PREDICATE: a tree whose leaves compare a column with values. It is
read in two ways, side by side:

* `text` -- the words of the condition. Values never appear in it: each has a placeholder `?`, and a
  column is written in double quotes, inside which a double quote is written twice;
* `params` -- the values, in the order of their placeholders.

Both are defined by recursion on the same tree, so a placeholder and its value come from the same
leaf.
-/

namespace FilterQuery.Sql

/-! ## 1. Columns -/

/-- A column, by its path in the store. -/
structure Column where
  parts : List String
  deriving DecidableEq, Repr

/-- One character inside a quoted identifier. -/
def doubleQuote (c : Char) : List Char :=
  if c = '"' then ['"', '"'] else [c]

/-- A name as a quoted identifier. -/
def quoteIdentifier (name : String) : String :=
  "\"" ++ String.ofList (name.toList.flatMap doubleQuote) ++ "\""

/-- The text of a column. -/
def Column.text (column : Column) : String :=
  ".".intercalate (column.parts.map quoteIdentifier)

/-! ## 2. Tests -/

/-- How one value is held against a column. -/
inductive Test where
  | equal
  | equalIgnoringCase
  | less
  | lessOrEqual
  | greater
  | greaterOrEqual
  | matching
  | nullness
  deriving DecidableEq, Repr

/-- The text of a test, with a placeholder for the value. -/
def Test.text (column : String) : Test → String
  | .equal => column ++ " = ?"
  | .equalIgnoringCase => String.join ["lower(", column, ") = lower(?)"]
  | .less => column ++ " < ?"
  | .lessOrEqual => column ++ " <= ?"
  | .greater => column ++ " > ?"
  | .greaterOrEqual => column ++ " >= ?"
  | .matching => String.join ["regexp_matches(CAST(", column, " AS VARCHAR), ?)"]
  | .nullness => String.join ["(", column, " IS NULL) = ?"]

/-! ## 3. Predicates -/

/-- A condition on the rows of a store. -/
inductive Predicate where
  /-- Holds for every row. -/
  | always
  /-- The column has no value. -/
  | isNull (column : Column)
  /-- Some value passes the test; none does when there are no values. -/
  | passes (test : Test) (column : Column) (values : List Value)
  /-- The column is one of the values. -/
  | member (column : Column) (values : List Value)
  | and (left right : Predicate)
  | or (left right : Predicate)
  | not (operand : Predicate)
  deriving DecidableEq, Repr

namespace Predicate

/-- The text of one test per value, joined by `OR`. -/
def passesText (test : Test) (column : String) (values : List Value) : String :=
  match values with
  | [] => "FALSE"
  | [_] => test.text column
  | values => "(" ++ " OR ".intercalate (values.map (fun _ => test.text column)) ++ ")"

/-- The text of a list with one placeholder per value. -/
def memberText (column : String) (values : List Value) : String :=
  match values with
  | [] => "FALSE"
  | values => column ++ " IN (" ++ ", ".intercalate (values.map (fun _ => "?")) ++ ")"

/-- The words of a condition. -/
def text : Predicate → String
  | .always => "TRUE"
  | .isNull column => column.text ++ " IS NULL"
  | .passes test column values => passesText test column.text values
  | .member column values => memberText column.text values
  | .and l r => "(" ++ l.text ++ " AND " ++ r.text ++ ")"
  | .or l r => "(" ++ l.text ++ " OR " ++ r.text ++ ")"
  | .not p => "NOT (" ++ p.text ++ ")"

/-- The values of a condition, in the order of their placeholders. -/
def params : Predicate → List Value
  | .always => []
  | .isNull _ => []
  | .passes _ _ values => values
  | .member _ values => values
  | .and l r => l.params ++ r.params
  | .or l r => l.params ++ r.params
  | .not p => p.params

end Predicate

end FilterQuery.Sql
