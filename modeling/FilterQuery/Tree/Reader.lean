import FilterQuery.Limits
import FilterQuery.Segment.Reader
import FilterQuery.Tree

/-!
# Reading a query

A query is a list of operands joined by `&` and `;`, and an operand is a clause, a group `(…)` or a
negated group `!(…)`. Operands are joined strictly from left to right.

The text is read character by character into a DRAFT, which holds

* the groups that are still open, the innermost first, each with what stands in front of it
  (`outer`);
* the operands of the innermost group so far, already joined, with the connective that waits for
  the next one (`left`);
* what has been read of the operand at hand (`slot`);
* the number of UTF-8 bytes read.

A `!` belongs to a group only if it is the whole of the operand so far when `(` follows. Behind a
closed group a `!` is a fault in any case, but which one is seen only at the next character.
-/

namespace FilterQuery

/-! ## 1. Drafts -/

/-- What has been read of one operand. -/
inductive Slot where
  /-- The characters of a clause, the last one first; none at the start of an operand. -/
  | clause (reversed : List Char)
  /-- A closed group. -/
  | group (tree : Tree)
  /-- A closed group with a `!` behind it. -/
  | marked (tree : Tree)
  deriving DecidableEq, Repr

/-- Whether a `!` has been read behind a closed group. -/
def Slot.isMarked : Slot → Bool
  | .marked _ => true
  | _ => false

/-- The operands so far, joined, and the connective that waits for the next one. -/
abbrev Joined := Option (Tree × Connective)

/-- What stands in front of an open group. -/
structure Frame where
  left : Joined
  negated : Bool
  deriving DecidableEq, Repr

/-- The part of a query that has been read. -/
structure Draft where
  outer : List Frame := []
  left : Joined := none
  slot : Slot := .clause []
  position : Nat := 0
  deriving DecidableEq, Repr

namespace Draft

/-- The operands so far with one more behind them. -/
def join (left : Joined) (operand : Tree) : Tree :=
  match left with
  | none => operand
  | some (tree, connective) => .binary connective tree operand

/-- The operand in the slot; nothing where none has been started. -/
def operand? (d : Draft) : Except QueryFault (Option Tree) :=
  match d.slot with
  | .clause [] => .ok none
  | .clause reversed =>
    match Segment.parse (String.ofList reversed.reverse) with
    | .ok s => .ok (some (.leaf s))
    | .error fault => .error fault
  | .group t => .ok (some t)
  | .marked _ => .error (.missingConnective d.position)

/-- The operands of the innermost group, the one in the slot included. An empty slot is the fault
    that is given. -/
def close (d : Draft) (vacant : QueryFault) : Except QueryFault Tree := do
  match ← d.operand? with
  | none => .error vacant
  | some operand => .ok (join d.left operand)

/-! ## 2. One character -/

/-- A connective ends an operand. -/
def connect (d : Draft) (connective : Connective) (position : Nat) : Except QueryFault Draft := do
  let tree ← d.close (.misplacedConnective connective position)
  return { d with left := some (tree, connective), slot := .clause [], position }

/-- An opening parenthesis starts a group where an operand is expected. -/
def openGroup (limits : Limits) (d : Draft) (position : Nat) : Except QueryFault Draft :=
  match d.slot with
  | .clause [] => enter false
  | .clause ['!'] => enter true
  | _ => .error (.misplacedGroup position)
where
  /-- The draft inside the new group. -/
  enter (negated : Bool) : Except QueryFault Draft :=
    if limits.maxDepth < d.outer.length + 1 then .error (.tooDeep limits.maxDepth position)
    else .ok { outer := { left := d.left, negated } :: d.outer, position }

/-- A closing parenthesis makes the innermost group an operand of the one around it. -/
def closeGroup (d : Draft) (position : Nat) : Except QueryFault Draft :=
  match d.outer with
  | [] => .error (.unmatchedClose position)
  | frame :: outer => do
    let tree ← d.close (.emptyClause position)
    let operand := if frame.negated then tree.negate else tree
    return { outer, left := frame.left, slot := .group operand, position }

/-- Any other character belongs to a clause. -/
def addChar (d : Draft) (c : Char) (position : Nat) : Except QueryFault Draft :=
  match d.slot with
  | .clause reversed => .ok { d with slot := .clause (c :: reversed), position }
  | .group t =>
    if c = '!' then .ok { d with slot := .marked t, position }
    else .error (.missingConnective position)
  | .marked _ => .error (.missingConnective d.position)

/-- Reads one character. Behind a `!` that follows a group, the fault was at the `!` -- unless the
    two start another group. -/
def push (limits : Limits) (d : Draft) (c : Char) : Except QueryFault Draft :=
  let position := d.position + c.utf8Size
  if c = '(' then d.openGroup limits position
  else if d.slot.isMarked then .error (.missingConnective d.position)
  else if c = '&' then d.connect .both position
  else if c = ';' then d.connect .either position
  else if c = ')' then d.closeGroup position
  else d.addChar c position

/-! ## 3. The whole text -/

/-- The tree of a draft at the end of the text. -/
def finish (d : Draft) : Except QueryFault Tree :=
  if d.slot.isMarked then .error (.missingConnective d.position)
  else if d.outer.isEmpty then d.close (.emptyClause d.position)
  else .error .unclosedGroup

end Draft

/-- The tree of a text that is not empty. -/
def Tree.read (limits : Limits) (text : List Char) : Except QueryFault Tree := do
  let draft ← text.foldlM (Draft.push limits) {}
  draft.finish

/-- The tree of a query text. The empty text matches everything. -/
def Tree.parse (limits : Limits) (text : String) : Except QueryFault Tree :=
  if limits.maxLength < text.utf8ByteSize then
    .error (.tooLong text.utf8ByteSize limits.maxLength)
  else if text = "" then .ok .noop
  else Tree.read limits text.toList

example : Tree.parse {} "a&b;!(c)" =
    .ok (.binary .either (.binary .both (.leaf (.of ["a"] [])) (.leaf (.of ["b"] [])))
      (.leaf (Segment.of ["c"] []).negate)) := by cbv

example : Tree.parse {} "(a)!(b)" = .error (.misplacedGroup 5) := by cbv

example : Tree.parse {} "(a)!b" = .error (.missingConnective 4) := by cbv

example : Tree.parse { maxDepth := 1 } "((a))" = .error (.tooDeep 1 2) := by cbv

end FilterQuery
