/-!
# Comparison operators and reserved path components

A clause compares an attribute with values. This file fixes the operators and their two spellings:

* a KEYWORD, written as the last path component (`age.gte=30`); every operator has one;
* a SYMBOL, written between path and values (`age>=30`); six operators have one;
* the word `not`, a trailing component that negates the clause (`age.not=30`).

A component that reads as a keyword or as `not` is RESERVED: at the end of a path it is taken off
the path instead of naming an attribute.
-/

namespace FilterQuery

/-- How a clause compares its attribute with its values. -/
inductive Operator where
  | exact
  | iexact
  | lessThan
  | lessOrEqual
  | greaterThan
  | greaterOrEqual
  | regex
  | isNull
  | oneOf
  deriving DecidableEq, Repr

namespace Operator

/-! ## 1. The table -/

/-- Every operator once, in the order in which look-ups try them. -/
def all : List Operator :=
  [.exact, .iexact, .lessThan, .lessOrEqual, .greaterThan, .greaterOrEqual, .regex, .isNull,
    .oneOf]

/-- The operator of a clause that names none: equality that ignores case. -/
def standard : Operator := .iexact

instance : Inhabited Operator := ⟨standard⟩

/-- The spelling of an operator as a path component. -/
def keyword : Operator → String
  | .exact => "exact"
  | .iexact => "iexact"
  | .lessThan => "lt"
  | .lessOrEqual => "lte"
  | .greaterThan => "gt"
  | .greaterOrEqual => "gte"
  | .regex => "regex"
  | .isNull => "isnull"
  | .oneOf => "in"

/-- The spelling of an operator between path and values, if it has one. -/
def symbol? : Operator → Option String
  | .exact => some "=="
  | .iexact => some "="
  | .lessThan => some "<"
  | .lessOrEqual => some "<="
  | .greaterThan => some ">"
  | .greaterOrEqual => some ">="
  | .regex => none
  | .isNull => none
  | .oneOf => none

/-- An operator on its own is shown by its symbol, or by its keyword behind a dot. -/
def label (op : Operator) : String :=
  op.symbol?.getD ("." ++ op.keyword)

/-! ## 2. Look-ups -/

/-- The operator with this keyword. -/
def ofKeyword? (text : String) : Option Operator :=
  all.find? (fun op => op.keyword == text)

/-- The operator with this symbol. -/
def ofSymbol? (text : String) : Option Operator :=
  all.find? (fun op => op.symbol? == some text)

theorem mem_all (op : Operator) : op ∈ all := by cases op <;> decide

@[simp] theorem ofKeyword?_keyword (op : Operator) : ofKeyword? op.keyword = some op := by
  cases op <;> decide

/-- A look-up by keyword answers with the operator that is spelled so. -/
theorem keyword_of_ofKeyword? {text : String} {op : Operator} (h : ofKeyword? text = some op) :
    op.keyword = text := by
  have := List.find?_some h
  simpa using this

/-- **Keywords and operators correspond.** -/
theorem ofKeyword?_eq_some_iff {text : String} {op : Operator} :
    ofKeyword? text = some op ↔ text = op.keyword :=
  ⟨fun h => (keyword_of_ofKeyword? h).symm, fun h => h ▸ ofKeyword?_keyword op⟩

theorem ofSymbol?_symbol {op : Operator} {text : String} (h : op.symbol? = some text) :
    ofSymbol? text = some op := by
  cases op <;> cases h <;> decide

/-! ## 3. Reserved components -/

/-- The component that negates a clause. -/
def negationWord : String := "not"

/-- A component that the end of a path does not keep. -/
def isReserved (component : String) : Bool :=
  component == negationWord || (ofKeyword? component).isSome

theorem isReserved_keyword (op : Operator) : isReserved op.keyword = true := by
  simp [isReserved]

end Operator

end FilterQuery
