import FilterQuery.Json
import FilterQuery.Query

/-!
# Queries as JSON

A tree is an object whose member `type` says which kind of node it is; the other members stand
beside it. A query is an object with the members `text` and `root`.

| `type`    | other members                                         |
|-----------|-------------------------------------------------------|
| `noop`    | none                                                  |
| `segment` | `path`, `operator`, `negated`, `directives`, `values` |
| `binary`  | `op` (`And`, `Or`), `left`, `right`                   |
| `unary`   | `op` (`Not`), `operand`                               |

This is what is written (`Tree.toJson`, `Query.toJson`). Reading is left to a `Decoder`, which takes
this form and may take others:

* `Decoder.Derived` -- what a decoder has to do with OBJECTS: every member of the row is there with
  the right type, no member of the row is there twice, and the other members are ignored;
* `Decoder.builtin` -- a decoder that also takes arrays, where the tag and the members stand in the
  order of the table, objects in place of the names of variants without data, and, inside of another
  tree, the number of a kind of node in place of its name.

Names count letter for letter.
-/

namespace FilterQuery

/-! ## 1. Names -/

/-- The name of an operator in JSON. -/
def Operator.tag : Operator → String
  | .exact => "Exact"
  | .iexact => "IExact"
  | .lessThan => "LessThan"
  | .lessOrEqual => "LessOrEqual"
  | .greaterThan => "GreaterThan"
  | .greaterOrEqual => "GreaterOrEqual"
  | .regex => "Regex"
  | .isNull => "IsNull"
  | .oneOf => "In"

/-- The operator with this name. -/
def Operator.ofTag? (text : String) : Option Operator :=
  Operator.all.find? (fun op => op.tag == text)

@[simp] theorem Operator.ofTag?_tag (op : Operator) : Operator.ofTag? op.tag = some op := by
  cases op <;> decide

/-- The name of a connective in JSON. -/
def Connective.tag : Connective → String
  | .both => "And"
  | .either => "Or"

/-- The connective with this name. -/
def Connective.ofTag? : String → Option Connective
  | "And" => some .both
  | "Or" => some .either
  | _ => none

@[simp] theorem Connective.ofTag?_tag (c : Connective) : Connective.ofTag? c.tag = some c := by
  cases c <;> rfl

/-- The negation with this name, of which there is only one. -/
def negationOfTag? : String → Option Unit
  | "Not" => some ()
  | _ => none

/-- The kinds of nodes. -/
inductive NodeKind where
  | noop
  | segment
  | binary
  | unary
  deriving DecidableEq, Repr

namespace NodeKind

/-- Every kind of node once, in the order of their numbers. -/
def all : List NodeKind := [.noop, .segment, .binary, .unary]

/-- The name of a kind of node in JSON. -/
def tag : NodeKind → String
  | .noop => "noop"
  | .segment => "segment"
  | .binary => "binary"
  | .unary => "unary"

/-- The kind of node with this name. -/
def ofTag? (text : String) : Option NodeKind :=
  all.find? (fun kind => kind.tag == text)

@[simp] theorem ofTag?_tag (kind : NodeKind) : ofTag? kind.tag = some kind := by
  cases kind <;> decide

/-- The members that stand beside the name of a kind of node. -/
def fields : NodeKind → List String
  | .noop => []
  | .segment => ["path", "operator", "negated", "directives", "values"]
  | .binary => ["op", "left", "right"]
  | .unary => ["op", "operand"]

end NodeKind

/-! ## 2. Writing -/

/-- The members of a segment. -/
def Segment.members (s : Segment) : Entries Json :=
  [("path", .array (s.path.map .string)),
    ("operator", .string s.operator.tag),
    ("negated", .boolean s.negated),
    ("directives", .array (s.directives.map .string)),
    ("values", .array (s.values.map .string))]

/-- A segment as JSON. -/
def Segment.toJson (s : Segment) : Json :=
  .object s.members

/-- A tree as JSON. -/
def Tree.toJson : Tree → Json
  | .noop => .object [("type", .string "noop")]
  | .leaf s => .object (("type", .string "segment") :: s.members)
  | .binary connective l r =>
    .object [("type", .string "binary"), ("op", .string connective.tag), ("left", l.toJson),
      ("right", r.toJson)]
  | .not t =>
    .object [("type", .string "unary"), ("op", .string "Not"), ("operand", t.toJson)]

/-- A query as JSON: its text and its tree. -/
def Query.toJson (q : Query) : Json :=
  .object [("text", .string q.text), ("root", q.root.toJson)]

/-! ## 3. Decoders -/

/-- Where a tree is read: from the value that was received, or from a part of another tree. -/
inductive Layer where
  | outermost
  | inside
  deriving DecidableEq, Repr

/-- Readers of the data that stand in trees and queries. -/
structure Readers where
  text? : Json → Option String
  truth? : Json → Option Bool
  texts? : Json → Option (List String)
  operator? : Json → Option Operator
  connective? : Json → Option Connective
  negation? : Json → Option Unit
  kind? : Layer → Json → Option NodeKind

namespace Readers

/-- The segment whose members are given. -/
def segmentOf? (r : Readers) (members : Entries Json) : Option Segment := do
  let path ← (members.only? "path").bind r.texts?
  let operator ← (members.only? "operator").bind r.operator?
  let negated ← (members.only? "negated").bind r.truth?
  let directives ← (members.only? "directives").bind r.texts?
  let values ← (members.only? "values").bind r.texts?
  return { path, operator, negated, directives, values }

/-- The tree of a kind of node whose members are given, with the trees in its members. -/
def treeOf? (r : Readers) (members : Entries Json) (operand? : String → Option Tree) :
    NodeKind → Option Tree
  | .noop => some .noop
  | .segment => (r.segmentOf? members).map .leaf
  | .binary => do
    let connective ← (members.only? "op").bind r.connective?
    let left ← operand? "left"
    let right ← operand? "right"
    return .binary connective left right
  | .unary => do
    let () ← (members.only? "op").bind r.negation?
    let operand ← operand? "operand"
    return .not operand

/-- The query whose members are given. -/
def queryOf? (r : Readers) (members : Entries Json) (root? : Json → Option Tree) :
    Option Query := do
  let text ← (members.only? "text").bind r.text?
  let root ← (members.only? "root").bind root?
  return { text, root }

/-- The kind of node that members say they are of. -/
def kindOf? (r : Readers) (layer : Layer) (members : Entries Json) : Option NodeKind :=
  (members.only? "type").bind (r.kind? layer)

end Readers

/-- What a library that decodes JSON reads from it. -/
structure Decoder extends Readers where
  tree? : Layer → Json → Option Tree
  query? : Json → Option Query

/-- **What a derived decoder does.** Of strings, booleans, arrays of strings and objects it says what
    is read from them. Other values, arrays in place of objects among them, it may take or not. -/
structure Decoder.Derived (d : Decoder) : Prop where
  text (s : String) : d.text? (.string s) = some s
  truth (b : Bool) : d.truth? (.boolean b) = some b
  texts (ss : List String) : d.texts? (.array (ss.map .string)) = some ss
  /-- A string is the name of a variant, or it is refused. -/
  operator (s : String) : d.operator? (.string s) = Operator.ofTag? s
  connective (s : String) : d.connective? (.string s) = Connective.ofTag? s
  negation (s : String) : d.negation? (.string s) = negationOfTag? s
  kind (layer : Layer) (s : String) : d.kind? layer (.string s) = NodeKind.ofTag? s
  /-- The tag decides which members are looked up. One that is missing or repeated is refused. -/
  tree (layer : Layer) (members : Entries Json) : d.tree? layer (.object members) =
    (d.kindOf? layer members).bind
      (d.treeOf? members fun name => (members.only? name).bind (d.tree? .inside))
  query (members : Entries Json) :
    d.query? (.object members) = d.queryOf? members (d.tree? .outermost)

/-! ## 4. The decoder of this library -/

/-- The kind of node that a tag says. Inside of another tree its number is a tag too. -/
def NodeKind.ofJson? : Layer → Json → Option NodeKind
  | _, .string name => ofTag? name
  | .inside, .number (.ofNat index) 0 => all[index]?
  | _, _ => none

/-- The kind of node and the members that a value holds. -/
def NodeKind.withMembers? (layer : Layer) (j : Json) : Option (NodeKind × Entries Json) := do
  let (tag, beside) ← j.tagged? "type"
  let kind ← ofJson? layer tag
  let members ← beside.record? kind.fields
  return (kind, members)

theorem NodeKind.sizeOf_withMembers? {layer : Layer} {j : Json} {kind : NodeKind}
    {members : Entries Json} (read : withMembers? layer j = some (kind, members)) {name : String}
    {value : Json} (found : members.only? name = some value) : sizeOf value < sizeOf j := by
  obtain ⟨⟨tag, beside⟩, tagged, read⟩ := Option.bind_eq_some_iff.mp read
  obtain ⟨kind, -, read⟩ := Option.bind_eq_some_iff.mp read
  obtain ⟨members, record, same⟩ := Option.bind_eq_some_iff.mp read
  cases same
  exact Nat.lt_of_lt_of_le (Json.sizeOf_record? record found) (Json.sizeOf_tagged? tagged)

/-- The operator that a value names. -/
def Operator.ofJson? (j : Json) : Option Operator :=
  j.variant?.bind ofTag?

/-- The connective that a value names. -/
def Connective.ofJson? (j : Json) : Option Connective :=
  j.variant?.bind ofTag?

/-- The readers of this library. -/
def Readers.builtin : Readers where
  text? := Json.string?
  truth? := Json.boolean?
  texts? := Json.strings?
  operator? := Operator.ofJson?
  connective? := Connective.ofJson?
  negation? j := j.variant?.bind negationOfTag?
  kind? := NodeKind.ofJson?

/-- The tree that a JSON value describes. -/
def Tree.readJson? (layer : Layer) (j : Json) : Option Tree :=
  match _h : NodeKind.withMembers? layer j with
  | some (kind, members) =>
    Readers.builtin.treeOf? members (fun name =>
      match _m : members.only? name with
      | some value => readJson? .inside value
      | none => none) kind
  | none => none
termination_by sizeOf j
decreasing_by exact NodeKind.sizeOf_withMembers? _h _m

/-- The tree that is received as a JSON value. -/
def Tree.ofJson? (j : Json) : Option Tree :=
  readJson? .outermost j

example : Tree.ofJson? (.array [.string "unary", .object [("Not", .null)],
    .object [("type", .number 0 0)]]) = some (.not .noop) := by cbv

example : Tree.ofJson? (.object [("type", .string "noop"), ("type", .string "noop")]) = none := by
  cbv

/-- The query that is received as a JSON value. -/
def Query.ofJson? (j : Json) : Option Query :=
  (j.record? ["text", "root"]).bind fun members => Readers.builtin.queryOf? members Tree.ofJson?

/-- The decoder of this library. -/
def Decoder.builtin : Decoder where
  toReaders := Readers.builtin
  tree? := Tree.readJson?
  query? := Query.ofJson?

end FilterQuery
