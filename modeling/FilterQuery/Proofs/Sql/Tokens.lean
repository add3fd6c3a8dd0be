/-!
# The tokens of a condition

A data store cuts the words of a condition into TOKENS before it reads them. This file fixes how,
for the part of the language that a condition needs:

* a QUOTED NAME stands between double quotes, and two double quotes inside it stand for one; any
  other character inside is part of the name, whatever it means outside;
* a word is a run of letters and underscores; the capital words of `Keyword` are keywords;
* `?`, `.`, `,`, brackets and the comparators stand for themselves, spaces only divide;
* anything else, digits and single quotes among them, is no token, and a name that is not closed is
  a fault.

The scanner goes through the text character by character and keeps what it has seen of the token at
hand (`Pending`). A token that could go on, such as a word, ends in front of a DELIMITER.
-/

namespace FilterQuery.Sql

/-! ## 1. Tokens -/

/-- How two operands are compared. -/
inductive Comparator where
  | equal
  | less
  | lessOrEqual
  | greater
  | greaterOrEqual
  deriving DecidableEq, Repr

/-- The words that are no names. -/
inductive Keyword where
  | true
  | false
  | and
  | or
  | not
  | is
  | null
  | oneOf
  | cast
  | as
  deriving DecidableEq, Repr

namespace Keyword

/-- Every keyword once. -/
def all : List Keyword := [.true, .false, .and, .or, .not, .is, .null, .oneOf, .cast, .as]

/-- The spelling of a keyword. -/
def text : Keyword → String
  | .true => "TRUE"
  | .false => "FALSE"
  | .and => "AND"
  | .or => "OR"
  | .not => "NOT"
  | .is => "IS"
  | .null => "NULL"
  | .oneOf => "IN"
  | .cast => "CAST"
  | .as => "AS"

/-- The keyword with this spelling. -/
def ofText? (text : String) : Option Keyword :=
  all.find? (fun k => k.text == text)

end Keyword

/-- One token. -/
inductive Token where
  /-- A quoted name, without its quotes. -/
  | name (text : String)
  /-- A word that is no keyword: a function or a type. -/
  | word (text : String)
  | keyword (keyword : Keyword)
  | comparator (comparator : Comparator)
  | placeholder
  | dot
  | comma
  | opening
  | closing
  deriving DecidableEq, Repr

/-- The token of a word. -/
def Token.ofWord (text : String) : Token :=
  match Keyword.ofText? text with
  | some k => .keyword k
  | none => .word text

/-! ## 2. The scanner -/

/-- A character of a word. -/
def isLetter (c : Char) : Bool :=
  c.isAlpha || c == '_'

/-- What has been seen of the token at hand. -/
inductive Pending where
  /-- Nothing: no token has begun. -/
  | none
  /-- A quoted name that is open. -/
  | quoted (seen : List Char)
  /-- A quoted name with a double quote behind it, which closes it unless another one follows. -/
  | closing (seen : List Char)
  | word (seen : List Char)
  | less
  | greater
  deriving DecidableEq, Repr

namespace Pending

/-- The token at hand, where the text may end. -/
def finish : Pending → Option (List Token)
  | .none => some []
  | .quoted _ => Option.none
  | .closing seen => some [.name (String.ofList seen)]
  | .word seen => some [Token.ofWord (String.ofList seen)]
  | .less => some [.comparator .less]
  | .greater => some [.comparator .greater]

/-- Begins a token with a character. -/
def start (c : Char) : Option (List Token × Pending) :=
  match c with
  | ' ' => some ([], .none)
  | '"' => some ([], .quoted [])
  | '?' => some ([.placeholder], .none)
  | '.' => some ([.dot], .none)
  | ',' => some ([.comma], .none)
  | '(' => some ([.opening], .none)
  | ')' => some ([.closing], .none)
  | '=' => some ([.comparator .equal], .none)
  | '<' => some ([], .less)
  | '>' => some ([], .greater)
  | c => if isLetter c then some ([], .word [c]) else Option.none

/-- Ends a token and begins the next one. -/
def behind (token : Token) (c : Char) : Option (List Token × Pending) :=
  (start c).map (fun (tokens, pending) => (token :: tokens, pending))

/-- Goes on with a character. -/
def next (pending : Pending) (c : Char) : Option (List Token × Pending) :=
  match pending with
  | .none => start c
  | .quoted seen => some ([], if c = '"' then .closing seen else .quoted (seen ++ [c]))
  | .closing seen =>
    if c = '"' then some ([], .quoted (seen ++ ['"'])) else behind (.name (String.ofList seen)) c
  | .word seen =>
    if isLetter c then some ([], .word (seen ++ [c]))
    else behind (Token.ofWord (String.ofList seen)) c
  | .less =>
    if c = '=' then some ([.comparator .lessOrEqual], .none) else behind (.comparator .less) c
  | .greater =>
    if c = '=' then some ([.comparator .greaterOrEqual], .none) else behind (.comparator .greater) c

/-- Goes on with a text: the tokens that end in it, and what is then at hand. -/
def scan (pending : Pending) : List Char → Option (List Token × Pending)
  | [] => some ([], pending)
  | c :: text => do
    let (tokens, after) ← pending.next c
    let (more, last) ← after.scan text
    return (tokens ++ more, last)

end Pending

/-- The tokens of a text. -/
def tokenize (text : String) : Option (List Token) := do
  let (tokens, last) ← Pending.none.scan text.toList
  let ended ← last.finish
  return tokens ++ ended

end FilterQuery.Sql
