import FilterQuery.Toml.Moment
import FilterQuery.Toml.Number

/-!
# Reading TOML values

A value is a string, a truth value, a moment, a number, an array or an inline table. Arrays may
spread over lines and end in a comma; inline tables may do neither. Values nest to a fixed depth,
and the recursion goes down with the depth that is left.
-/

namespace FilterQuery.Toml

/-! ## 1. Arrays -/

/-- The items of an array, from where an item or the closing bracket is expected. -/
def readItems (item : Reader Toml) (text : List Char) : Option (List Toml × List Char) :=
  match skipLayout false text with
  | ']' :: rest => some ([], rest)
  | start => do
    let (value, rest) ← item start
    match skipLayout false rest with
    | ']' :: rest => some ([value], rest)
    | ',' :: rest =>
      if _h : rest.length < text.length then
        let (values, rest) ← readItems item rest
        return (value :: values, rest)
      else none
    | _ => none
termination_by text.length

/-! ## 2. Inline tables -/

/-- A key and its value. -/
def readPair (item : Reader Toml) : Reader (List String × Toml) := fun text => do
  let (path, rest) ← readKey maxNesting text
  match rest with
  | '=' :: rest =>
    let (value, rest) ← item (skipSpaces rest)
    return ((path, value), rest)
  | _ => none

/-- The pairs of an inline table, from where a pair is expected. -/
def readPairs (item : Reader Toml) (text : List Char) :
    Option (List (List String × Toml) × List Char) := do
  let (pair, rest) ← readPair item text
  match skipSpaces rest with
  | '\x7d' :: rest => some ([pair], rest)
  | ',' :: rest =>
    if _h : rest.length < text.length then
      let (pairs, rest) ← readPairs item rest
      return (pair :: pairs, rest)
    else none
  | _ => none
termination_by text.length

/-- Gives the value of a pair to its key. -/
def assignPath (origin : Origin) (entries : Entries Toml) (path : List String) (value : Toml) :
    Option (Entries Toml) :=
  match path.getLast? with
  | some key => assign path.dropLast key value origin entries
  | none => none

/-- An inline table, from behind its opening brace. -/
def readInline (item : Reader Toml) : Reader Toml := fun text =>
  match skipSpaces text with
  | '\x7d' :: rest => some (.table .inline [], rest)
  | start => do
    let (pairs, rest) ← readPairs item start
    let entries ← pairs.foldlM
      (fun entries pair => assignPath .inline entries pair.1 pair.2) []
    return (.table .inline entries, rest)

/-! ## 3. Values -/

/-- A value that holds no others. -/
def readScalar : Reader Toml := fun text =>
  match text with
  | '"' :: _ => (readString text).map fun (s, rest) => (.string s, rest)
  | '\x27' :: _ => (readString text).map fun (s, rest) => (.string s, rest)
  | 't' :: 'r' :: 'u' :: 'e' :: rest => some (.boolean true, rest)
  | 'f' :: 'a' :: 'l' :: 's' :: 'e' :: rest => some (.boolean false, rest)
  | text =>
    match skipMoment? text with
    | some rest => some (.moment, rest)
    | none => readNumber text

/-- A value in which others nest at most `depth` deep. -/
def readValue : (depth : Nat) → Reader Toml
  | depth + 1, '[' :: rest =>
    (readItems (readValue depth) rest).map fun (items, rest) => (.array items, rest)
  | depth + 1, '\x7b' :: rest => readInline (readValue depth) rest
  | _, text => readScalar text

end FilterQuery.Toml
