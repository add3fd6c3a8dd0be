import FilterQuery.Attribute
import FilterQuery.Query
import FilterQuery.Sql.Predicate

/-!
# From queries to conditions

A query becomes a condition on rows, and a list of sort keys, once names stand for attributes.

* A segment FILTERS if it has values, or asks whether there is a value at all (`isnull`). Any other
  segment, and any segment whose name stands for nothing, is IGNORED: its condition holds for every
  row, negated or not.
* The values of a filtering segment are cleaned for its operator: a pattern stays as it is written,
  `isnull` takes a boolean, and every other operator takes a value of the attribute's kind. Values
  that cannot be cleaned are dropped; with none left nothing passes.
* A directive `asc` or `desc`, in any case, makes the column a sort key; of several the last one
  decides.
-/

namespace FilterQuery.Sql

/-! ## 1. One segment -/

/-- The column that a segment speaks of. -/
def columnOf (a : Attribute) (s : Segment) : Column :=
  ⟨a.storagePath s⟩

/-- Whether a segment asks anything of a row. -/
def filters (s : Segment) : Bool :=
  !s.values.isEmpty || s.operator == .isNull

/-- The value that a raw text stands for under an operator. -/
def cleanFor (operator : Operator) (kind : Kind) (raw : String) : Option Value :=
  match operator with
  | .regex => some (.text raw)
  | .isNull => (readBoolean? raw).map .boolean
  | _ => kind.clean raw

/-- The test of an operator. Only text has a case to be ignored. -/
def testFor (operator : Operator) (kind : Kind) : Test :=
  match operator with
  | .iexact => if kind = .text then .equalIgnoringCase else .equal
  | .exact | .oneOf => .equal
  | .lessThan => .less
  | .lessOrEqual => .lessOrEqual
  | .greaterThan => .greater
  | .greaterOrEqual => .greaterOrEqual
  | .regex => .matching
  | .isNull => .nullness

/-- The values of a segment that can be cleaned, in their order. -/
def cleanValues (a : Attribute) (s : Segment) : List Value :=
  s.values.filterMap (cleanFor s.operator a.kind)

/-- What a filtering segment asks, before its negation. -/
def comparison (a : Attribute) (s : Segment) : Predicate :=
  if s.values.isEmpty then .isNull (columnOf a s)
  else if s.operator = .oneOf then .member (columnOf a s) (cleanValues a s)
  else .passes (testFor s.operator a.kind) (columnOf a s) (cleanValues a s)

/-- The condition of one segment. -/
def segmentPredicate (resolve : Resolver) (s : Segment) : Predicate :=
  match resolve s.name with
  | none => .always
  | some a =>
    if filters s then
      if s.negated then .not (comparison a s) else comparison a s
    else .always

/-! ## 2. The tree -/

/-- The condition of a tree, node for node. -/
def treePredicate (resolve : Resolver) : Tree → Predicate
  | .noop => .always
  | .leaf s => segmentPredicate resolve s
  | .binary .both l r => .and (treePredicate resolve l) (treePredicate resolve r)
  | .binary .either l r => .or (treePredicate resolve l) (treePredicate resolve r)
  | .not t => .not (treePredicate resolve t)

/-! ## 3. Sort keys -/

/-- A column to sort by. -/
structure SortKey where
  column : Column
  descending : Bool
  deriving DecidableEq, Repr

/-- The text of a sort key. -/
def SortKey.text (key : SortKey) : String :=
  key.column.text ++ (if key.descending then " DESC" else " ASC")

/-- The direction that a directive asks for, `true` for descending. -/
def direction? (directive : String) : Option Bool :=
  match directive.map Char.toLower with
  | "asc" => some false
  | "desc" => some true
  | _ => none

/-- The sort key of a segment, from the last of its directives that asks for a direction. -/
def sortKey? (resolve : Resolver) (s : Segment) : Option SortKey := do
  let a ← resolve s.name
  let descending ← s.directives.reverse.findSome? direction?
  return { column := columnOf a s, descending }

/-! ## 4. The filter -/

/-- A condition and the keys to sort by. -/
structure Filter where
  predicate : Predicate
  order : List SortKey
  deriving DecidableEq, Repr

namespace Filter

/-- The filter of a tree. Its sort keys come in the order of a walk through the tree. -/
def ofTree (resolve : Resolver) (t : Tree) : Filter where
  predicate := treePredicate resolve t
  order := (Walk.of t).toList.filterMap (sortKey? resolve)

/-- The filter of a query. -/
def build (resolve : Resolver) (q : Query) : Filter :=
  ofTree resolve q.root

/-- The words of the condition. -/
def condition (f : Filter) : String := f.predicate.text

/-- The values of the condition, in the order of their placeholders. -/
def params (f : Filter) : List Value := f.predicate.params

/-- The texts of the sort keys. -/
def orderItems (f : Filter) : List String := f.order.map SortKey.text

/-- The `ORDER BY` part of a statement; empty when there is nothing to sort by. -/
def orderClause (f : Filter) : String :=
  if f.order.isEmpty then "" else "ORDER BY " ++ ", ".intercalate f.orderItems

end Filter

example :
    (segmentPredicate (fun _ => some { path := "we\"ird.col", kind := .text })
      (.of ["odd", "inner"] ["x"])).text =
      "lower(\"we\"\"ird\".\"col\".\"inner\") = lower(?)" := by cbv

end FilterQuery.Sql
