import FilterQuery.Entries

/-!
# TOML values

Settings are kept in TOML texts. A table remembers its ORIGIN, because TOML says which later lines
may still add to it:

* `header` -- it was opened by a line `[table]`, and no second such line may open it;
* `implied` -- it lies on the way to a table opened by a header, and may be opened itself;
* `dotted` -- it lies on the way to a key `a.b = …`, and takes more such keys;
* `inline` -- it was written between braces and is complete.
-/

namespace FilterQuery

/-- How a table came to be. -/
inductive Toml.Origin where
  | header
  | implied
  | dotted
  | inline
  deriving DecidableEq, Repr

/-- A TOML value. -/
inductive Toml where
  | string (s : String)
  | integer (n : Int64)
  | float (x : Float)
  | boolean (b : Bool)
  /-- A date, a time, or both. -/
  | moment
  | array (items : List Toml)
  | table (origin : Toml.Origin) (entries : List (String × Toml))
  /-- An array of tables built by lines `[[table]]`; later lines add to the newest. -/
  | tables (newest : List (String × Toml)) (older : List (List (String × Toml)))
  deriving Repr

namespace Toml

/-- Changes the table at the end of a path below a table, and makes the tables on the way that are
    not there yet. The way leads through the newest element of an array of tables. Where the way is
    that of a dotted key, tables opened by a header are closed to it. -/
def within (dotted : Bool) (change : Origin → Entries Toml → Option (Entries Toml)) :
    List String → Origin → Entries Toml → Option (Entries Toml)
  | [], origin, entries => change origin entries
  | key :: path, _, entries =>
    match entries.get? key with
    | none =>
      let origin := if dotted then .dotted else .implied
      (within dotted change path origin []).map fun inner =>
        entries.put key (.table origin inner)
    | some (.table origin inner) =>
      if origin = .inline ∨ (dotted ∧ origin = .header) then none
      else
        (within dotted change path origin inner).map fun inner =>
          entries.put key (.table origin inner)
    | some (.tables newest older) =>
      (within dotted change path .header newest).map fun newest =>
        entries.put key (.tables newest older)
    | some _ => none

/-- Gives a value to a dotted key below a table. Only a table made by dotted keys takes a key
    through them, and no key is given a value twice. -/
def assign (path : List String) (key : String) (value : Toml) (origin : Origin)
    (entries : Entries Toml) : Option (Entries Toml) :=
  within true
    (fun origin entries =>
      if (origin == .dotted) == path.isEmpty then none
      else if (entries.get? key).isSome then none
      else some (entries ++ [(key, value)]))
    path origin entries

/-- Opens the table of a header below a table. -/
def openTable (key : String) (entries : Entries Toml) : Option (Entries Toml) :=
  match entries.get? key with
  | none => some (entries.put key (.table .header []))
  | some (.table .implied inner) => some (entries.put key (.table .header inner))
  | some _ => none

/-- Adds an element to the array of tables of a header. -/
def openElement (key : String) (entries : Entries Toml) : Option (Entries Toml) :=
  match entries.get? key with
  | none => some (entries.put key (.tables [] []))
  | some (.tables newest older) => some (entries.put key (.tables [] (newest :: older)))
  | some _ => none

end Toml

end FilterQuery
