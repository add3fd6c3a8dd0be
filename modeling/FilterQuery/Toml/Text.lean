import FilterQuery.Text.CodePoint

/-!
# The lexical level of TOML

What values and keys are made of: blanks and comments, the four kinds of strings, and keys. A reader
takes the text from where it stands and answers with what it read and the text behind that; it
answers with nothing where the text does not begin with what it reads.
-/

namespace FilterQuery.Toml

/-- Reads something from the start of a text. -/
abbrev Reader (α : Type) := List Char → Option (α × List Char)

/-! ## 1. Layout -/

/-- The blanks inside a line. -/
def isSpace (c : Char) : Bool :=
  c == ' ' || c == '\t'

/-- A text behind its leading blanks. -/
def skipSpaces (text : List Char) : List Char :=
  text.dropWhile isSpace

/-- The characters that stand for themselves: all but the controls, and the tab. -/
def isPlain (c : Char) : Bool :=
  c == '\t' || (0x20 ≤ c.toNat && c.toNat != 0x7F)

/-- A text behind the line end at its start. A carriage return alone is none. -/
def newline? : List Char → Option (List Char)
  | '\n' :: rest => some rest
  | '\r' :: '\n' :: rest => some rest
  | _ => none

/-- A text behind the comment at its start. -/
def skipComment : List Char → List Char
  | '#' :: rest => rest.dropWhile isPlain
  | rest => rest

/-- The text behind the end of a line, with blanks and a comment in front of it. The last line needs
    no line end. -/
def endLine? (text : List Char) : Option (List Char) :=
  match skipComment (skipSpaces text) with
  | [] => some []
  | rest => newline? rest

/-- A text behind blanks, line ends and comments; `inComment` where a comment has started. -/
def skipLayout (inComment : Bool) : List Char → List Char
  | [] => []
  | '\n' :: rest => skipLayout false rest
  | '\r' :: '\n' :: rest => skipLayout false rest
  | c :: rest =>
    if inComment then
      if isPlain c then skipLayout true rest else c :: rest
    else if c = '#' then skipLayout true rest
    else if isSpace c then skipLayout false rest
    else c :: rest

/-! ## 2. Strings -/

/-- A string with one more character in front. -/
def andThen (c : Char) (read : Option (List Char × List Char)) :
    Option (List Char × List Char) :=
  read.map fun (text, rest) => (c :: text, rest)

/-- The character of a one-letter escape. -/
def shortEscape? : Char → Option Char
  | 'b' => some '\x08'
  | 't' => some '\t'
  | 'n' => some '\n'
  | 'f' => some '\x0c'
  | 'r' => some '\r'
  | '"' => some '"'
  | '\\' => some '\\'
  | _ => none

/-- A basic string, from behind its opening quote. -/
def readBasic : Reader (List Char)
  | [] => none
  | '"' :: rest => some ([], rest)
  | '\\' :: 'u' :: a :: b :: c :: d :: rest =>
    match Text.hexChar? [a, b, c, d] with
    | some x => andThen x (readBasic rest)
    | none => none
  | '\\' :: 'U' :: a :: b :: c :: d :: e :: f :: g :: h :: rest =>
    match Text.hexChar? [a, b, c, d, e, f, g, h] with
    | some x => andThen x (readBasic rest)
    | none => none
  | '\\' :: c :: rest =>
    match shortEscape? c with
    | some x => andThen x (readBasic rest)
    | none => none
  | c :: rest => if isPlain c ∧ c ≠ '\\' then andThen c (readBasic rest) else none

/-- A literal string, from behind its opening quote. -/
def readLiteral : Reader (List Char)
  | [] => none
  | '\x27' :: rest => some ([], rest)
  | c :: rest => if isPlain c then andThen c (readLiteral rest) else none

/-- The end of a multi-line string behind its three closing quotes: up to two more belong to the
    text. -/
def closeMulti (quote : Char) (text : List Char) : List Char × List Char :=
  let more := min 2 (text.takeWhile (· == quote)).length
  (text.take more, text.drop more)

/-- A multi-line basic string, from behind its opening quotes. A backslash at the end of a line
    takes away the white space behind it (`trimming`). -/
def readMultiBasic (trimming : Bool) : Reader (List Char)
  | [] => none
  | '"' :: '"' :: '"' :: rest => some (closeMulti '"' rest)
  | '\n' :: rest =>
    if trimming then readMultiBasic true rest else andThen '\n' (readMultiBasic false rest)
  | '\r' :: '\n' :: rest =>
    if trimming then readMultiBasic true rest else andThen '\n' (readMultiBasic false rest)
  | '\\' :: 'u' :: a :: b :: c :: d :: rest =>
    match Text.hexChar? [a, b, c, d] with
    | some x => andThen x (readMultiBasic false rest)
    | none => none
  | '\\' :: 'U' :: a :: b :: c :: d :: e :: f :: g :: h :: rest =>
    match Text.hexChar? [a, b, c, d, e, f, g, h] with
    | some x => andThen x (readMultiBasic false rest)
    | none => none
  | '\\' :: c :: rest =>
    match shortEscape? c with
    | some x => andThen x (readMultiBasic false rest)
    | none =>
      match newline? (skipSpaces (c :: rest)) with
      | some _ => readMultiBasic true rest
      | none => none
  | c :: rest =>
    if trimming ∧ isSpace c then readMultiBasic true rest
    else if isPlain c ∧ c ≠ '\\' then andThen c (readMultiBasic false rest)
    else none

/-- A multi-line literal string, from behind its opening quotes. -/
def readMultiLiteral : Reader (List Char)
  | [] => none
  | '\x27' :: '\x27' :: '\x27' :: rest => some (closeMulti '\x27' rest)
  | '\n' :: rest => andThen '\n' (readMultiLiteral rest)
  | '\r' :: '\n' :: rest => andThen '\n' (readMultiLiteral rest)
  | c :: rest => if isPlain c then andThen c (readMultiLiteral rest) else none

/-- A text without the line end at its start. -/
def skipNewline (text : List Char) : List Char :=
  (newline? text).getD text

/-- A string of any kind. -/
def readString : Reader String := fun text =>
  (match text with
    | '"' :: '"' :: '"' :: rest => readMultiBasic false (skipNewline rest)
    | '"' :: rest => readBasic rest
    | '\x27' :: '\x27' :: '\x27' :: rest => readMultiLiteral (skipNewline rest)
    | '\x27' :: rest => readLiteral rest
    | _ => none).map fun (s, rest) => (String.ofList s, rest)

/-! ## 3. Keys -/

/-- The characters of a key without quotes. -/
def isBare (c : Char) : Bool :=
  c.isAlphanum || c == '_' || c == '-'

/-- One component of a key. -/
def readComponent : Reader String := fun text =>
  (match text with
    | '"' :: rest => readBasic rest
    | '\x27' :: rest => readLiteral rest
    | text =>
      if text.takeWhile isBare = [] then none
      else some (text.takeWhile isBare, text.dropWhile isBare)).map
    fun (s, rest) => (String.ofList s, rest)

/-- A key of at most `room` components between dots, with blanks around each. -/
def readKey : (room : Nat) → Reader (List String)
  | 0, _ => none
  | room + 1, text => do
    let (component, rest) ← readComponent (skipSpaces text)
    match skipSpaces rest with
    | '.' :: rest =>
      let (path, rest) ← readKey room rest
      return (component :: path, rest)
    | rest => return ([component], rest)

/-- Nothing nests deeper than this, neither values nor the components of a key. -/
def maxNesting : Nat := 79

end FilterQuery.Toml
