import FilterQuery.FieldTable
import FilterQuery.Source
import FilterQuery.Toml.Codec

/-!
# Field tables in settings files

A field table is stored as a TOML document with one value per name:

* a table with the keys `path` and `kind`, others being ignored; or
* an array that starts with the path and the kind.

A kind is its name, or a table whose only key is its name and whose value there is empty. As for
limits, reading takes the codec for TOML as an argument (`ofTomlBy`, `loadBy`).
-/

namespace FilterQuery.FieldTable

/-- The path of an attribute. -/
def storedPath? : Toml → Option String
  | .string s => some s
  | _ => none

/-- Whether a value holds nothing. -/
def isVacant : Toml → Bool
  | .array items => items.isEmpty
  | .table _ entries => entries.isEmpty
  | _ => false

/-- The kind of an attribute. -/
def storedKind? : Toml → Option Kind
  | .string name => Kind.ofName? name
  | .table _ [(name, value)] => if isVacant value then Kind.ofName? name else none
  | _ => none

/-- The attribute that a value holds. -/
def storedAttribute? : Toml → Option Attribute
  | .table _ entries => do
    let path ← storedPath? (← Entries.get? "path" entries)
    let kind ← storedKind? (← Entries.get? "kind" entries)
    return { path, kind }
  | .array (path :: kind :: _) => do
    let path ← storedPath? path
    let kind ← storedKind? kind
    return { path, kind }
  | _ => none

/-- A name with the attribute that its value holds. -/
def storedEntry? (entry : String × Toml) : Option (String × Attribute) :=
  (storedAttribute? entry.2).map fun a => (entry.1, a)

/-- The field table that the entries of a document hold. -/
def ofEntries? (entries : Entries Toml) : Option FieldTable :=
  (entries.mapM storedEntry?).map ofList

/-- Reads a field table from a TOML text. -/
def ofTomlBy (codec : Toml.Codec) (text : String) : Except Error FieldTable :=
  match (codec.read? text).bind ofEntries? with
  | some table => .ok table
  | none => .error (.settings .badFields)

def ofToml : String → Except Error FieldTable :=
  ofTomlBy .builtin

/-- Loads a field table from its settings file. -/
def loadBy (codec : Toml.Codec) (source : Source) : Except Error FieldTable :=
  source.read >>= ofTomlBy codec

def load : Source → Except Error FieldTable :=
  loadBy .builtin

end FilterQuery.FieldTable
