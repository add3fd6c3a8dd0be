import FilterQuery.Numeric.Decimal
import FilterQuery.Numeric.Integer
import FilterQuery.Segment
import FilterQuery.Text.Blank
import FilterQuery.Value

/-!
# Attributes

An ATTRIBUTE is what a name in a query stands for: a dotted path into the data store and the KIND
of value that is stored there. Raw values are CLEANED by kind before they are compared:

* text is taken as it is written;
* numbers and booleans are read without the white space around them;
* what cannot be read, and what is no finite number, is dropped (`none`).
-/

namespace FilterQuery

/-! ## 1. Kinds -/

/-- The kind of value that is stored under an attribute. -/
inductive Kind where
  | text
  | integer
  | float
  | boolean
  deriving DecidableEq, Repr

namespace Kind

/-- Every kind once. -/
def all : List Kind := [.text, .integer, .float, .boolean]

/-- The name of a kind in field tables. -/
def name : Kind → String
  | .text => "text"
  | .integer => "integer"
  | .float => "float"
  | .boolean => "boolean"

/-- The kind with this name. -/
def ofName? (text : String) : Option Kind :=
  all.find? (fun kind => kind.name == text)

@[simp] theorem ofName?_name (kind : Kind) : ofName? kind.name = some kind := by
  cases kind <;> decide

end Kind

/-! ## 2. Cleaning -/

/-- The boolean that a text spells, in any case and with white space around it. -/
def readBoolean? (raw : String) : Option Bool :=
  let word := String.ofList ((Text.trim raw.toList).map Char.toLower)
  if word ∈ ["true", "t", "yes", "y", "on", "1"] then some true
  else if word ∈ ["false", "f", "no", "n", "off", "0"] then some false
  else none

/-- The value of a kind that a raw text stands for. -/
def Kind.clean (kind : Kind) (raw : String) : Option Value :=
  match kind with
  | .text => some (.text raw)
  | .integer => (Numeric.readInt64? (Text.trim raw.toList)).map .integer
  | .float => ((Numeric.Decimal.read? (Text.trim raw.toList)).bind (·.toFinite?)).map .float
  | .boolean => (readBoolean? raw).map .boolean

/-! ## 3. Attributes -/

/-- Where an attribute is stored and what is stored there. -/
structure Attribute where
  path : String
  kind : Kind
  deriving DecidableEq, Repr

namespace Attribute

/-- The components of the attribute's path, then those that a segment adds behind the name. -/
def storagePath (a : Attribute) (s : Segment) : List String :=
  (a.path.toList.splitOn '.').map String.ofList ++ s.subpath

end Attribute

/-- What names stand for. A name without an attribute is not filtered on. -/
abbrev Resolver := String → Option Attribute

end FilterQuery
