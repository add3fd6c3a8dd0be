import FilterQuery.Entries

/-!
# JSON values

Data is exchanged with other programs as JSON. The members of an object are kept in a list, but are
found by name alone, so that their order makes no difference.

A RECORD is an object with a member for each of its fields, or an array of their values. A TAGGED
value has its tag among the fields of such a record.
-/

namespace FilterQuery

/-- A JSON value. -/
inductive Json where
  | null
  | boolean (b : Bool)
  /-- The number `mantissa / 10 ^ decimals`. -/
  | number (mantissa : Int) (decimals : Nat)
  | string (s : String)
  | array (items : List Json)
  | object (members : List (String × Json))
  deriving Repr, Inhabited

namespace Json

/-! ## 1. Views -/

/-- The text of a string. -/
def string? : Json → Option String
  | .string s => some s
  | _ => none

/-- The truth value of a boolean. -/
def boolean? : Json → Option Bool
  | .boolean b => some b
  | _ => none

/-- The texts of an array of strings. -/
def strings? : Json → Option (List String)
  | .array items => items.mapM string?
  | _ => none

/-- Whether a value holds nothing. -/
def isVacant : Json → Bool
  | .null => true
  | .object [] => true
  | _ => false

/-- The name of a variant that has no data: a string, or an object whose only member has this name
    and holds nothing. -/
def variant? : Json → Option String
  | .string name => some name
  | .object [(name, value)] => if value.isVacant then some name else none
  | _ => none

/-- The fields of a record with these names. An array holds just them, in order. -/
def record? (names : List String) : Json → Option (Entries Json)
  | .object members => some members
  | .array items => if items.length = names.length then some (names.zip items) else none
  | _ => none

/-- A value in two parts: its tag, and the value that holds the rest. In an array the tag comes
    first. -/
def tagged? (name : String) : Json → Option (Json × Json)
  | .object members => (Entries.only? name members).map fun tag => (tag, .object members)
  | .array (tag :: items) => some (tag, .array items)
  | _ => none

/-! ## 2. Size -/

/-- **A field is smaller than its record.** -/
theorem sizeOf_record? {names : List String} {j : Json} {fields : Entries Json}
    (record : j.record? names = some fields) {name : String} {value : Json}
    (found : fields.only? name = some value) : sizeOf value < sizeOf j := by
  have there := Entries.mem_of_only? found
  unfold record? at record
  split at record
  · cases record
    have smaller := List.sizeOf_lt_of_mem there
    simp only [Prod.mk.sizeOf_spec, Json.object.sizeOf_spec] at smaller ⊢
    omega
  · split at record
    · cases record
      have smaller := List.sizeOf_lt_of_mem (List.of_mem_zip there).2
      simp only [Json.array.sizeOf_spec]
      omega
    · cases record
  · cases record

/-- What stands beside a tag is no larger than the whole. -/
theorem sizeOf_tagged? {name : String} {j tag beside : Json}
    (tagged : j.tagged? name = some (tag, beside)) : sizeOf beside ≤ sizeOf j := by
  unfold tagged? at tagged
  split at tagged
  · obtain ⟨_, -, same⟩ := Option.map_eq_some_iff.mp tagged
    cases same
    exact Nat.le_refl _
  · cases tagged
    simp only [Json.array.sizeOf_spec, List.cons.sizeOf_spec]
    omega
  · cases tagged

end Json

end FilterQuery
