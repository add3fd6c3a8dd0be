import FilterQuery.Proofs.Sql.Tokens

/-!
# Reading a condition

What the words of a condition mean is an EXPRESSION. This file fixes how it is read off the tokens,
independently of how conditions are written. From the loosest to the tightest,

* `OR`, then `AND`, both joining from left to right;
* `NOT`, in front of its operand;
* `IS NULL`, behind its operand;
* the comparators, which do not join at all: `a < b < c` is no expression;
* `IN (…)`, behind its operand.

The reader goes through the tokens one by one and holds what is still open, the innermost first
(`frames`), beside what it stands behind (`position`). A token that binds less tightly than an open
operator closes it first (`settle`).
-/

namespace FilterQuery.Sql

/-! ## 1. Expressions -/

/-- What a condition asks of a row. -/
inductive Expr where
  | truth (value : Bool)
  | column (parts : List String)
  /-- A value that is bound when the statement runs. -/
  | placeholder
  | call (function : String) (arguments : List Expr)
  | cast (operand : Expr) (type : String)
  | compare (comparator : Comparator) (left right : Expr)
  | isNull (operand : Expr)
  | isIn (operand : Expr) (items : List Expr)
  | not (operand : Expr)
  | and (left right : Expr)
  | or (left right : Expr)

/-- What joins two operands. -/
inductive Joint where
  | or
  | and
  | compare (comparator : Comparator)
  deriving DecidableEq, Repr

namespace Joint

/-- How tightly a joint binds. -/
def level : Joint → Nat
  | .or => 1
  | .and => 2
  | .compare _ => 5

theorem level_pos (joint : Joint) : 0 < joint.level := by
  cases joint with
  | or => exact Nat.one_pos
  | and => exact Nat.two_pos
  | compare => exact Nat.succ_pos 4

/-- Whether a joint takes what it has joined as its left operand again. -/
def chains : Joint → Bool
  | .compare _ => false
  | _ => true

/-- Joins two operands. -/
def join : Joint → Expr → Expr → Expr
  | .or => .or
  | .and => .and
  | .compare comparator => .compare comparator

end Joint

/-- How tightly `NOT` binds. -/
def notLevel : Nat := 3

/-- How tightly `IS NULL` binds. -/
def isLevel : Nat := 4

/-- How tightly `IN` binds. -/
def inLevel : Nat := 6

/-! ## 2. The reader -/

/-- What is open around an operand. -/
inductive Open where
  | group
  | arguments (function : String) (before : List Expr)
  | items (operand : Expr) (before : List Expr)
  | cast
  | not
  | joined (joint : Joint) (left : Expr)

/-- What the reader stands behind. -/
inductive Position where
  /-- Nothing: an operand must follow. -/
  | operand
  /-- The name of a function, or the word `CAST`: a bracket must follow. -/
  | function (name : String)
  | castWord
  /-- A column, which a dot may lead on, and that dot. -/
  | column (parts : List String)
  | columnDot (parts : List String)
  /-- A whole operand. -/
  | whole (e : Expr)
  /-- An operand and `IS`, `IN` or `AS`. -/
  | is (e : Expr)
  | oneOf (e : Expr)
  | as (e : Expr)
  /-- An operand, `AS` and a type: a bracket must follow. -/
  | typed (e : Expr) (type : String)

/-- The operand that ends at a position. -/
def Position.operand? : Position → Option Expr
  | .column parts => some (.column parts)
  | .whole e => some e
  | _ => none

/-- The part of a condition that has been read. -/
structure Reader where
  frames : List Open := []
  position : Position := .operand

/-- Closes the open operators that bind more tightly than a level, and those of the level itself if
    they chain. -/
def settle (level : Nat) : List Open → Expr → Option (List Open × Expr)
  | .not :: frames, e =>
    if level ≤ notLevel then settle level frames (.not e) else some (.not :: frames, e)
  | .joined joint left :: frames, e =>
    if level < joint.level ∨ level = joint.level ∧ joint.chains then
      settle level frames (joint.join left e)
    else if level = joint.level then none
    else some (.joined joint left :: frames, e)
  | frames, e => some (frames, e)

namespace Reader

/-- The operand at which the reader stands, once the operators inside a level are closed. -/
def settled (r : Reader) (level : Nat) : Option (List Open × Expr) :=
  r.position.operand?.bind (settle level r.frames)

/-- Closes a bracket. -/
def close : List Open × Expr → Option Reader
  | (.group :: frames, e) => some ⟨frames, .whole e⟩
  | (.arguments function before :: frames, e) =>
    some ⟨frames, .whole (.call function (before ++ [e]))⟩
  | (.items operand before :: frames, e) => some ⟨frames, .whole (.isIn operand (before ++ [e]))⟩
  | _ => none

/-- Goes on to the next element of a list. -/
def addElement : List Open × Expr → Option Reader
  | (.arguments function before :: frames, e) =>
    some ⟨.arguments function (before ++ [e]) :: frames, .operand⟩
  | (.items operand before :: frames, e) => some ⟨.items operand (before ++ [e]) :: frames, .operand⟩
  | _ => none

/-- Goes on to the type of a `CAST`. -/
def addType : List Open × Expr → Option Reader
  | (.cast :: frames, e) => some ⟨.cast :: frames, .as e⟩
  | _ => none

/-- Waits for the right operand of a joint. -/
def addJoint (joint : Joint) (left : List Open × Expr) : Option Reader :=
  some ⟨.joined joint left.2 :: left.1, .operand⟩

/-- A token behind an operand. -/
def pushBehind (r : Reader) : Token → Option Reader
  | .keyword .or => (r.settled Joint.or.level).bind (addJoint .or)
  | .keyword .and => (r.settled Joint.and.level).bind (addJoint .and)
  | .comparator c => (r.settled (Joint.compare c).level).bind (addJoint (.compare c))
  | .keyword .is => (r.settled isLevel).map (fun (frames, e) => ⟨frames, .is e⟩)
  | .keyword .oneOf => (r.settled inLevel).map (fun (frames, e) => ⟨frames, .oneOf e⟩)
  | .keyword .as => (r.settled 0).bind addType
  | .comma => (r.settled 0).bind addElement
  | .closing => (r.settled 0).bind close
  | _ => none

/-- A token in place of an operand. -/
def pushOperand (frames : List Open) : Token → Option Reader
  | .keyword .true => some ⟨frames, .whole (.truth true)⟩
  | .keyword .false => some ⟨frames, .whole (.truth false)⟩
  | .placeholder => some ⟨frames, .whole .placeholder⟩
  | .name text => some ⟨frames, .column [text]⟩
  | .word text => some ⟨frames, .function text⟩
  | .keyword .cast => some ⟨frames, .castWord⟩
  | .keyword .not => some ⟨.not :: frames, .operand⟩
  | .opening => some ⟨.group :: frames, .operand⟩
  | _ => none

/-- Goes on with a token. -/
def push (r : Reader) (token : Token) : Option Reader :=
  match r.position, token with
  | .operand, token => pushOperand r.frames token
  | .function name, .opening => some ⟨.arguments name [] :: r.frames, .operand⟩
  | .castWord, .opening => some ⟨.cast :: r.frames, .operand⟩
  | .column parts, .dot => some ⟨r.frames, .columnDot parts⟩
  | .columnDot parts, .name text => some ⟨r.frames, .column (parts ++ [text])⟩
  | .is e, .keyword .null => some ⟨r.frames, .whole (.isNull e)⟩
  | .oneOf e, .opening => some ⟨.items e [] :: r.frames, .operand⟩
  | .as e, .word type => some ⟨r.frames, .typed e type⟩
  | .typed e type, .closing => some ⟨r.frames.tail, .whole (.cast e type)⟩
  | _, token => r.pushBehind token

/-- Goes on with tokens. -/
def run (r : Reader) (tokens : List Token) : Option Reader :=
  tokens.foldlM push r

/-- The expression that has been read, if nothing is open. -/
def finish (r : Reader) : Option Expr :=
  match r.settled 0 with
  | some ([], e) => some e
  | _ => none

end Reader

/-- The expression of tokens: of all of them, or none. -/
def readTokens (tokens : List Token) : Option Expr :=
  (({} : Reader).run tokens).bind Reader.finish

/-- The expression that a text means: all of the text, or none. -/
def readCondition (text : String) : Option Expr :=
  (tokenize text).bind readTokens

end FilterQuery.Sql
