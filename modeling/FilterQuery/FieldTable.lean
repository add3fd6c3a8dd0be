import FilterQuery.Attribute
import FilterQuery.Entries

/-!
# Field tables

A FIELD TABLE gives attributes to names. Each name has at most one; giving it another one replaces
the first, and leaves the order of the names as it is.
-/

namespace FilterQuery

/-- Attributes by name. -/
structure FieldTable where
  entries : Entries Attribute := []
  deriving DecidableEq, Repr

namespace FieldTable

/-- The attribute of a name. -/
def get? (t : FieldTable) (name : String) : Option Attribute :=
  t.entries.get? name

/-- The table with an attribute given to a name. -/
def insert (t : FieldTable) (name : String) (a : Attribute) : FieldTable :=
  ⟨t.entries.put name a⟩

/-- The table of a list of entries, later ones replacing earlier ones. -/
def ofList (entries : Entries Attribute) : FieldTable :=
  entries.foldl (fun t entry => t.insert entry.1 entry.2) {}

/-- The number of names. -/
def size (t : FieldTable) : Nat := t.entries.length

/-- Whether no name has an attribute. -/
def isEmpty (t : FieldTable) : Bool := t.entries.isEmpty

/-- **A look-up sees the attribute that was given last.** -/
@[simp] theorem get?_insert (t : FieldTable) (name other : String) (a : Attribute) :
    (t.insert name a).get? other = if name = other then some a else t.get? other :=
  Entries.get?_put name other a t.entries

end FieldTable

end FilterQuery
