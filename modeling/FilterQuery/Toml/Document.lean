import FilterQuery.Toml.Reader

/-!
# TOML documents

A document is a list of lines. Each holds a STATEMENT or nothing: a key and its value, the header of
a table, or the header of an element of an array of tables. Statements are carried out in order; a
key belongs to the table of the last header above it.
-/

namespace FilterQuery.Toml

/-! ## 1. Statements -/

/-- What a line of a document says. -/
inductive Statement where
  | assign (path : List String) (value : Toml)
  | table (path : List String)
  | element (path : List String)
  deriving Repr

/-- The statement at the start of a text. -/
def readStatement : Reader Statement := fun text =>
  match text with
  | '[' :: '[' :: rest => do
    let (path, rest) ← readKey maxNesting rest
    match rest with
    | ']' :: ']' :: rest => return (.element path, rest)
    | _ => none
  | '[' :: rest => do
    let (path, rest) ← readKey maxNesting rest
    match rest with
    | ']' :: rest => return (.table path, rest)
    | _ => none
  | text => do
    let ((path, value), rest) ← readPair (readValue maxNesting) text
    return (.assign path value, rest)

/-- Whether a text starts with a line that says nothing. -/
def startsEmptyLine : List Char → Bool
  | '#' :: _ => true
  | '\n' :: _ => true
  | '\r' :: _ => true
  | _ => false

/-- The statements of a document, in order. -/
def readStatements (text : List Char) : Option (List Statement) :=
  match skipSpaces text with
  | [] => some []
  | start =>
    if startsEmptyLine start then do
      let rest ← endLine? start
      if _h : rest.length < text.length then readStatements rest else none
    else do
      let (statement, rest) ← readStatement start
      let rest ← endLine? rest
      if _h : rest.length < text.length then
        return statement :: (← readStatements rest)
      else none
termination_by text.length

/-! ## 2. Carrying out -/

/-- The tables so far and the path of the one that takes keys. -/
structure Draft where
  root : Entries Toml
  current : List String

/-- Carries out one statement. -/
def Draft.run (d : Draft) : Statement → Option Draft
  | .assign path value =>
    (within false (fun origin entries => assignPath origin entries path value) d.current .header
      d.root).map fun root => { d with root }
  | .table path => open? path openTable
  | .element path => open? path openElement
where
  /-- Opens a table at the end of a path. -/
  open? (path : List String) (change : String → Entries Toml → Option (Entries Toml)) :
      Option Draft :=
    match path.getLast? with
    | some key =>
      (within false (fun _ entries => change key entries) path.dropLast .header d.root).map
        fun root => { root, current := path }
    | none => none

/-- A text without the byte order mark at its start. -/
def skipByteOrderMark : List Char → List Char
  | '\ufeff' :: rest => rest
  | rest => rest

/-- The entries of a document. -/
def readDocument? (text : String) : Option (Entries Toml) := do
  let statements ← readStatements (skipByteOrderMark text.toList)
  let draft ← statements.foldlM Draft.run { root := [], current := [] }
  return draft.root

end FilterQuery.Toml
