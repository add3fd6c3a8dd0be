import FilterQuery.Proofs.Json.Changes
import Mathlib.Logic.Relation

/-!
# Queries exchanged as JSON

What a program reads from the JSON of a query is the query, whichever program wrote it. This holds of
every decoder that keeps the rules of `Decoder.Derived`, whatever else it takes:

* `Decoder.Derived.tree?_toJson` -- every tree is read from its own JSON, those that no query text
  builds included;
* `Decoder.Derived.readsSame_of_unseen` -- an unseen change makes no difference, however deep inside
  it is;
* `Decoder.Derived.tree?_of_damaged` -- nothing is read from the damaged JSON of a tree, wherever the
  damage is;
* `Decoder.derived_builtin` -- the decoder of this library keeps the rules;
* `Query.json_faithful` -- all of it, for trees and for queries.
-/

namespace FilterQuery

open Json

/-! ## 1. Names -/

theorem Operator.ofTag?_eq_some_iff {text : String} {op : Operator} :
    Operator.ofTag? text = some op ↔ text = op.tag := by
  constructor
  · intro found
    have same := List.find?_some found
    exact (beq_iff_eq.mp same).symm
  · intro same
    rw [same, Operator.ofTag?_tag]

theorem Connective.ofTag?_eq_some_iff {text : String} {connective : Connective} :
    Connective.ofTag? text = some connective ↔ text = connective.tag := by
  constructor
  · intro found
    unfold Connective.ofTag? at found
    split at found
    · cases found
      rfl
    · cases found
      rfl
    · cases found
  · intro same
    rw [same, Connective.ofTag?_tag]

theorem negationOfTag?_eq_some_iff {text : String} :
    negationOfTag? text = some () ↔ text = "Not" := by
  unfold negationOfTag?
  split <;> simp_all

theorem NodeKind.ofTag?_eq_some_iff {text : String} {kind : NodeKind} :
    NodeKind.ofTag? text = some kind ↔ text = kind.tag := by
  constructor
  · intro found
    have same := List.find?_some found
    exact (beq_iff_eq.mp same).symm
  · intro same
    rw [same, NodeKind.ofTag?_tag]

namespace NodeKind

theorem mem_all (kind : NodeKind) : kind ∈ all := by
  cases kind <;> decide

theorem nodup_fields (kind : NodeKind) : ("type" :: kind.fields).Nodup := by
  cases kind <;> decide

theorem ne_type_of_mem_fields {kind : NodeKind} {name : String} (field : name ∈ kind.fields) :
    name ≠ "type" := by
  rintro rfl
  exact (List.nodup_cons.mp kind.nodup_fields).1 field

theorem operands_subset_fields (kind : NodeKind) : kind.operands ⊆ kind.fields := by
  cases kind <;> decide

end NodeKind

/-! ## 2. Trees by their members -/

namespace Tree

/-- The kind of a tree's node. -/
def kind : Tree → NodeKind
  | .noop => .noop
  | .leaf _ => .segment
  | .binary _ _ _ => .binary
  | .not _ => .unary

/-- The members of a tree's JSON. -/
def members : Tree → Entries Json
  | .noop => [("type", .string "noop")]
  | .leaf s => ("type", .string "segment") :: s.members
  | .binary connective l r =>
    [("type", .string "binary"), ("op", .string connective.tag), ("left", l.toJson),
      ("right", r.toJson)]
  | .not t => [("type", .string "unary"), ("op", .string "Not"), ("operand", t.toJson)]

theorem toJson_eq (t : Tree) : t.toJson = .object t.members := by
  cases t <;> rfl

theorem names_members (t : Tree) : t.members.map Prod.fst = "type" :: t.kind.fields := by
  cases t <;> rfl

theorem nodup_members (t : Tree) : (t.members.map Prod.fst).Nodup := by
  rw [names_members]
  exact t.kind.nodup_fields

theorem type_members (t : Tree) : t.members.only? "type" = some (.string t.kind.tag) := by
  cases t <;> rfl

end Tree

namespace Decoder.Derived

variable {d : Decoder} (rules : d.Derived)

include rules

theorem kindOf?_of_type {members : Entries Json} {kind : NodeKind}
    (type : members.only? "type" = some (.string kind.tag)) (layer : Layer) :
    d.kindOf? layer members = some kind := by
  rw [Readers.kindOf?, type, Option.bind_some, rules.kind, NodeKind.ofTag?_tag]

/-- A segment is read from its own members. -/
theorem segmentOf?_members (s : Segment) : d.segmentOf? (Tree.leaf s).members = some s := by
  have path : (Tree.leaf s).members.only? "path" = some (.array (s.path.map .string)) := rfl
  have operator : (Tree.leaf s).members.only? "operator" = some (.string s.operator.tag) := rfl
  have negated : (Tree.leaf s).members.only? "negated" = some (.boolean s.negated) := rfl
  have directives : (Tree.leaf s).members.only? "directives" =
      some (.array (s.directives.map .string)) := rfl
  have values : (Tree.leaf s).members.only? "values" = some (.array (s.values.map .string)) := rfl
  rw [Readers.segmentOf?, path, operator, negated, directives, values]
  simp only [Option.bind_eq_bind, Option.bind_some, rules.texts, rules.operator, rules.truth,
    Operator.ofTag?_tag]
  rfl

/-- What is read from a tree's JSON is read from its members. -/
theorem tree?_members (t : Tree) (layer : Layer) : d.tree? layer t.toJson =
    d.treeOf? t.members (fun name => (t.members.only? name).bind (d.tree? .inside)) t.kind := by
  rw [t.toJson_eq, rules.tree, rules.kindOf?_of_type t.type_members, Option.bind_some]

/-- **A tree is read from its own JSON**, by itself and as a part of another one. -/
theorem tree?_toJson (t : Tree) (layer : Layer) : d.tree? layer t.toJson = some t := by
  induction t generalizing layer with
  | noop => exact rules.tree?_members .noop layer
  | leaf s =>
    rw [rules.tree?_members]
    exact congrArg (Option.map Tree.leaf) (rules.segmentOf?_members s)
  | binary connective l r ihl ihr =>
    have op : (Tree.binary connective l r).members.only? "op" = some (.string connective.tag) := rfl
    have left : (Tree.binary connective l r).members.only? "left" = some l.toJson := rfl
    have right : (Tree.binary connective l r).members.only? "right" = some r.toJson := rfl
    rw [rules.tree?_members, Tree.kind, Readers.treeOf?, op, left, right]
    simp only [Option.bind_eq_bind, Option.bind_some, rules.connective, Connective.ofTag?_tag, ihl,
      ihr]
    rfl
  | not t ih =>
    have op : (Tree.not t).members.only? "op" = some (.string "Not") := rfl
    have operand : (Tree.not t).members.only? "operand" = some t.toJson := rfl
    rw [rules.tree?_members, Tree.kind, Readers.treeOf?, op, operand]
    simp only [Option.bind_eq_bind, Option.bind_some, rules.negation, negationOfTag?, ih]
    rfl

/-- **A query is read from its own JSON.** -/
theorem query?_toJson (q : Query) : d.query? q.toJson = some q := by
  have text : Entries.only? "text" [("text", Json.string q.text), ("root", q.root.toJson)] =
      some (.string q.text) := rfl
  have root : Entries.only? "root" [("text", Json.string q.text), ("root", q.root.toJson)] =
      some q.root.toJson := rfl
  rw [Query.toJson, rules.query, Readers.queryOf?, text, root]
  simp only [Option.bind_eq_bind, Option.bind_some, rules.text, rules.tree?_toJson]
  rfl

end Decoder.Derived

/-! ## 3. Unseen changes -/

namespace Decoder

/-- A decoder reads the same from two values in a role. -/
def ReadsSame (d : Decoder) : Role → Json → Json → Prop
  | .query, j, k => d.query? j = d.query? k
  | .tree layer, j, k => d.tree? layer j = d.tree? layer k

/-- Members that a decoder cannot tell apart: the same data are found and the same trees read. -/
structure SameMembers (d : Decoder) (role : Role) (members others : Entries Json) : Prop where
  data : ∀ name ∈ role.reads d.toReaders members, name ∉ role.operands d.toReaders members →
    members.only? name = others.only? name
  operand : ∀ name ∈ role.operands d.toReaders members,
    (members.only? name).bind (d.tree? role.inner) = (others.only? name).bind (d.tree? role.inner)

variable {d : Decoder} {role : Role} {members others before after : Entries Json}

/-- The kind of node is no tree. -/
theorem type_not_mem_operands (r : Readers) (layer : Layer) (members : Entries Json) :
    "type" ∉ (Role.tree layer).operands r members := by
  rw [Role.operands]
  cases r.kindOf? layer members with
  | none => exact List.not_mem_nil
  | some kind => cases kind <;> decide

theorem mem_reads_of_mem_operands {r : Readers} {name : String}
    (operand : name ∈ role.operands r members) : name ∈ role.reads r members := by
  cases role with
  | query => exact List.mem_cons_of_mem _ operand
  | tree layer =>
    refine List.mem_cons_of_mem _ ?_
    rw [Role.operands] at operand
    cases found : r.kindOf? layer members with
    | none =>
      rw [found] at operand
      exact operand
    | some kind =>
      rw [found] at operand
      exact kind.operands_subset_fields operand

/-- A tree depends on the members of its kind of node alone. -/
theorem treeOf?_congr {r : Readers} {kind : NodeKind} {operand? operand?' : String → Option Tree}
    (data : ∀ name ∈ kind.fields, name ∉ kind.operands → members.only? name = others.only? name)
    (operand : ∀ name ∈ kind.operands, operand? name = operand?' name) :
    r.treeOf? members operand? kind = r.treeOf? others operand?' kind := by
  cases kind with
  | noop => rfl
  | segment =>
    simp only [Readers.treeOf?, Readers.segmentOf?, data "path" (by decide) (by decide),
      data "operator" (by decide) (by decide), data "negated" (by decide) (by decide),
      data "directives" (by decide) (by decide), data "values" (by decide) (by decide)]
  | binary =>
    simp only [Readers.treeOf?, data "op" (by decide) (by decide), operand "left" (by decide),
      operand "right" (by decide)]
  | unary =>
    simp only [Readers.treeOf?, data "op" (by decide) (by decide), operand "operand" (by decide)]

/-- The order of members is not seen. -/
theorem sameMembers_of_perm (same : members.Perm others) : d.SameMembers role members others where
  data _ _ _ := Entries.only?_perm same
  operand _ _ := congrArg (Option.bind · _) (Entries.only?_perm same)

/-- A member that is not looked up is not seen. -/
theorem sameMembers_of_unread {name : String} {value : Json}
    (unread : name ∉ role.reads d.toReaders (before ++ after)) :
    d.SameMembers role (before ++ after) (before ++ (name, value) :: after) := by
  have same : ∀ other ∈ role.reads d.toReaders (before ++ after),
      (before ++ after).only? other = (before ++ (name, value) :: after).only? other := by
    intro other read
    have differs : name ≠ other := by
      rintro rfl
      exact unread read
    exact (Entries.only?_middle_of_ne differs before after value).symm
  exact ⟨fun other read _ => same other read,
    fun other operand => congrArg (Option.bind · _) (same other (mem_reads_of_mem_operands operand))⟩

/-- Of a member that holds a tree only the tree is seen. -/
theorem sameMembers_of_replaced {name : String} {v w : Json}
    (operand : name ∈ role.operands d.toReaders (before ++ (name, v) :: after))
    (same : d.tree? role.inner v = d.tree? role.inner w) :
    d.SameMembers role (before ++ (name, v) :: after) (before ++ (name, w) :: after) := by
  have others : ∀ other, name ≠ other → Entries.only? other (before ++ (name, v) :: after) =
      Entries.only? other (before ++ (name, w) :: after) := by
    intro other differs
    rw [Entries.only?_middle_of_ne differs, Entries.only?_middle_of_ne differs]
  constructor
  · intro other _ no_operand
    exact others other fun equal => no_operand (equal ▸ operand)
  · intro other _
    by_cases equal : name = other
    · subst equal
      rcases Entries.only?_replaced before after v w with ⟨old, new⟩ | ⟨old, new⟩
      · rw [old, new]
      · rw [old, new]
        exact same
    · rw [others other equal]

namespace Derived

variable (rules : d.Derived)

include rules

/-- **A decoder that keeps the rules sees members only.** -/
theorem readsSame_of_sameMembers (same : d.SameMembers role members others) :
    d.ReadsSame role (.object members) (.object others) := by
  obtain ⟨data, operand⟩ := same
  cases role with
  | query =>
    have text := data "text" (by simp [Role.reads]) (by simp [Role.operands])
    have root : _ = (others.only? "root").bind (d.tree? .outermost) :=
      operand "root" (by simp [Role.operands])
    rw [ReadsSame, rules.query, rules.query, Readers.queryOf?, Readers.queryOf?, text]
    exact congrArg _ (funext fun _ => congrArg (Option.bind · _) root)
  | tree layer =>
    have type := data "type" List.mem_cons_self (type_not_mem_operands _ _ _)
    have same_kind : d.kindOf? layer others = d.kindOf? layer members := by
      rw [Readers.kindOf?, Readers.kindOf?, type]
    rw [ReadsSame, rules.tree, rules.tree, same_kind]
    rw [Role.reads, Role.operands] at data
    rw [Role.operands] at operand
    cases found : d.kindOf? layer members with
    | none => rfl
    | some kind =>
      rw [found] at data operand
      exact treeOf?_congr (fun name field => data name (List.mem_cons_of_mem _ field)) operand

/-- **An unseen change makes no difference**, in the value or in a tree that is part of it. -/
theorem readsSame_of_unseen {j k : Json} (h : Unseen d.toReaders role j k) :
    d.ReadsSame role j k := by
  induction h with
  | reordered same => exact rules.readsSame_of_sameMembers (sameMembers_of_perm same)
  | extended unread => exact rules.readsSame_of_sameMembers (sameMembers_of_unread unread)
  | inMember operand _ ih =>
    exact rules.readsSame_of_sameMembers (sameMembers_of_replaced operand ih)

end Derived

end Decoder

/-! ## 4. Damage -/

/-- The kind of node that stands among a tree's members. -/
theorem Tree.kindNamed?_members (t : Tree) : kindNamed? t.members = some t.kind := by
  rw [kindNamed?, t.type_members]
  exact NodeKind.ofTag?_tag t.kind

/-- A member of a tree's JSON is looked up, and it is the only one of its name. -/
theorem Tree.member_of_toJson {t : Tree} {before after : Entries Json} {name : String} {v : Json}
    (written : t.toJson = .object (before ++ (name, v) :: after)) :
    t.members = before ++ (name, v) :: after ∧ (name = "type" ∨ name ∈ t.kind.fields) ∧
      name ∉ before.map Prod.fst ∧ name ∉ after.map Prod.fst := by
  have listed : t.members = before ++ (name, v) :: after := by
    rwa [toJson_eq, Json.object.injEq] at written
  have named : name ∈ t.members.map Prod.fst := by simp [listed]
  have distinct := t.nodup_members
  rw [names_members, List.mem_cons] at named
  rw [listed] at distinct
  exact ⟨listed, named, Entries.not_mem_of_nodup distinct⟩

/-- Only operands can be damaged inside. -/
theorem Tree.operand_of_damaged {t : Tree} {name : String} {v w : Json} (h : (name, v) ∈ t.members)
    (damage : Damaged v w) : name ∈ t.kind.operands ∧ ∃ operand : Tree, v = operand.toJson := by
  cases t with
  | noop =>
    simp only [members, List.mem_singleton, Prod.mk.injEq] at h
    obtain ⟨-, rfl⟩ := h
    cases damage
  | leaf s =>
    simp only [members, Segment.members, List.mem_cons, List.not_mem_nil, Prod.mk.injEq,
      or_false] at h
    rcases h with ⟨-, rfl⟩ | ⟨-, rfl⟩ | ⟨-, rfl⟩ | ⟨-, rfl⟩ | ⟨-, rfl⟩ | ⟨-, rfl⟩ <;> cases damage
  | binary connective l r =>
    simp only [members, List.mem_cons, List.not_mem_nil, Prod.mk.injEq, or_false] at h
    rcases h with ⟨-, rfl⟩ | ⟨-, rfl⟩ | ⟨rfl, rfl⟩ | ⟨rfl, rfl⟩
    · cases damage
    · cases damage
    · exact ⟨by simp [kind, NodeKind.operands], l, rfl⟩
    · exact ⟨by simp [kind, NodeKind.operands], r, rfl⟩
  | not t =>
    simp only [members, List.mem_cons, List.not_mem_nil, Prod.mk.injEq, or_false] at h
    rcases h with ⟨-, rfl⟩ | ⟨-, rfl⟩ | ⟨rfl, rfl⟩
    · cases damage
    · cases damage
    · exact ⟨by simp [kind, NodeKind.operands], t, rfl⟩

/-- A member of a query's JSON is its text or its tree, and it is the only one of its name. -/
theorem Query.member_of_toJson {q : Query} {before after : Entries Json} {name : String}
    {v : Json} (written : q.toJson = .object (before ++ (name, v) :: after)) :
    (name = "text" ∧ v = .string q.text ∨ name = "root" ∧ v = q.root.toJson) ∧
      name ∉ before.map Prod.fst ∧ name ∉ after.map Prod.fst := by
  rw [toJson, Json.object.injEq] at written
  have member : (name, v) ∈ [("text", Json.string q.text), ("root", q.root.toJson)] := by
    simp [written]
  have distinct : ([("text", Json.string q.text), ("root", q.root.toJson)].map Prod.fst).Nodup := by
    simp
  rw [written] at distinct
  exact ⟨by simpa using member, Entries.not_mem_of_nodup distinct⟩

namespace Decoder

variable {d : Decoder}

/-- What a member has to hold for its name's sake, in an object of a kind of node. -/
structure Suits (d : Decoder) (kind : NodeKind) (name : String) (v : Json) : Prop where
  tag (named : name ∈ tagNames) (s : String) (text : v = .string s) : s ∈ tags (some kind) name
  operand (holds_tree : name ∈ kind.operands) : ∃ t, d.tree? .inside v = some t

/-- A member that is looked up and suits its name. -/
def Provides (d : Decoder) (kind : NodeKind) (members : Entries Json) (name : String) : Prop :=
  ∃ v, members.only? name = some v ∧ d.Suits kind name v

section Provides

variable {kind : NodeKind} {members : Entries Json} {name : String} {α : Type}
  {read? : Json → Option α} {value : α}

theorem provides_data (read : (members.only? name).bind read? = some value)
    (no_tag : name ∉ tagNames) (no_tree : name ∉ kind.operands) :
    d.Provides kind members name := by
  obtain ⟨v, found, -⟩ := Option.bind_eq_some_iff.mp read
  exact ⟨v, found, fun named => absurd named no_tag, fun holds_tree => absurd holds_tree no_tree⟩

theorem provides_tag (read : (members.only? name).bind read? = some value)
    (known : ∀ s, read? (.string s) = some value → s ∈ tags (some kind) name)
    (no_tree : name ∉ kind.operands) : d.Provides kind members name := by
  obtain ⟨v, found, named⟩ := Option.bind_eq_some_iff.mp read
  refine ⟨v, found, ?_, fun holds_tree => absurd holds_tree no_tree⟩
  rintro - s rfl
  exact known s named

theorem provides_operand {t : Tree} (read : (members.only? name).bind (d.tree? .inside) = some t)
    (no_tag : name ∉ tagNames) : d.Provides kind members name := by
  obtain ⟨v, found, inner⟩ := Option.bind_eq_some_iff.mp read
  exact ⟨v, found, fun named => absurd named no_tag, fun _ => ⟨t, inner⟩⟩

end Provides

namespace Derived

variable (rules : d.Derived)

include rules

/-! The names that are read as variants of their types. -/

theorem known_operator {op : Operator} (s : String) (named : d.operator? (.string s) = some op) :
    s ∈ tags (some .segment) "operator" := by
  rw [rules.operator, Operator.ofTag?_eq_some_iff] at named
  rw [named]
  exact List.mem_map_of_mem (Operator.mem_all op)

theorem known_connective {connective : Connective} (s : String)
    (named : d.connective? (.string s) = some connective) : s ∈ tags (some .binary) "op" := by
  rw [rules.connective, Connective.ofTag?_eq_some_iff] at named
  rw [named]
  cases connective <;> decide

theorem known_negation (s : String) (named : d.negation? (.string s) = some ()) :
    s ∈ tags (some .unary) "op" := by
  rw [rules.negation, negationOfTag?_eq_some_iff] at named
  rw [named]
  decide

/-- **What a tree needs of each member of its kind of node**: it is there and holds what suits its
name. -/
theorem provides_of_treeOf? {kind : NodeKind} {members : Entries Json} {u : Tree}
    (read : d.treeOf? members (fun name => (members.only? name).bind (d.tree? .inside)) kind =
      some u) {name : String} (field : name ∈ kind.fields) : d.Provides kind members name := by
  cases kind with
  | noop => cases field
  | segment =>
    obtain ⟨s, read, -⟩ := Option.map_eq_some_iff.mp read
    obtain ⟨_, path, read⟩ := Option.bind_eq_some_iff.mp read
    obtain ⟨_, operator, read⟩ := Option.bind_eq_some_iff.mp read
    obtain ⟨_, negated, read⟩ := Option.bind_eq_some_iff.mp read
    obtain ⟨_, directives, read⟩ := Option.bind_eq_some_iff.mp read
    obtain ⟨_, values, -⟩ := Option.bind_eq_some_iff.mp read
    simp only [NodeKind.fields, List.mem_cons, List.not_mem_nil, or_false] at field
    rcases field with rfl | rfl | rfl | rfl | rfl
    · exact provides_data path (by decide) (by decide)
    · exact provides_tag operator rules.known_operator (by decide)
    · exact provides_data negated (by decide) (by decide)
    · exact provides_data directives (by decide) (by decide)
    · exact provides_data values (by decide) (by decide)
  | binary =>
    obtain ⟨_, op, read⟩ := Option.bind_eq_some_iff.mp read
    obtain ⟨_, left, read⟩ := Option.bind_eq_some_iff.mp read
    obtain ⟨_, right, -⟩ := Option.bind_eq_some_iff.mp read
    simp only [NodeKind.fields, List.mem_cons, List.not_mem_nil, or_false] at field
    rcases field with rfl | rfl | rfl
    · exact provides_tag op rules.known_connective (by decide)
    · exact provides_operand left (by decide)
    · exact provides_operand right (by decide)
  | unary =>
    obtain ⟨_, op, read⟩ := Option.bind_eq_some_iff.mp read
    obtain ⟨_, operand, -⟩ := Option.bind_eq_some_iff.mp read
    simp only [NodeKind.fields, List.mem_cons, List.not_mem_nil, or_false] at field
    rcases field with rfl | rfl
    · exact provides_tag op rules.known_negation (by decide)
    · exact provides_operand operand (by decide)

theorem provides_of_tree? {layer : Layer} {members : Entries Json} {u : Tree}
    (read : d.tree? layer (.object members) = some u) {kind : NodeKind}
    (found : d.kindOf? layer members = some kind) {name : String} (field : name ∈ kind.fields) :
    d.Provides kind members name := by
  rw [rules.tree, found] at read
  exact rules.provides_of_treeOf? read field

/-- A tree needs its kind of node. -/
theorem kindOf?_of_tree? {layer : Layer} {members : Entries Json} {u : Tree}
    (read : d.tree? layer (.object members) = some u) :
    ∃ v kind, members.only? "type" = some v ∧ d.kind? layer v = some kind := by
  rw [rules.tree] at read
  obtain ⟨kind, found, -⟩ := Option.bind_eq_some_iff.mp read
  obtain ⟨v, there, named⟩ := Option.bind_eq_some_iff.mp found
  exact ⟨v, kind, there, named⟩

/-- The kind of node stays where another member is replaced. -/
theorem kindOf?_replaced {t : Tree} {before after : Entries Json} {name : String} {v : Json}
    (listed : t.members = before ++ (name, v) :: after) (other : name ≠ "type") (layer : Layer) :
    d.kindOf? layer (before ++ after) = some t.kind ∧
      ∀ w, d.kindOf? layer (before ++ (name, w) :: after) = some t.kind := by
  have type : Entries.only? "type" (before ++ after) = some (.string t.kind.tag) := by
    rw [← Entries.only?_middle_of_ne other before after v, ← listed, t.type_members]
  refine ⟨rules.kindOf?_of_type type layer, fun w => rules.kindOf?_of_type ?_ layer⟩
  rw [Entries.only?_middle_of_ne other, type]

/-- **Nothing is read from damaged JSON**, wherever the damage is. The induction is on where it is. At
every level the members that are looked up are those of before, unless the kind of node itself is
damaged. -/
theorem tree?_of_damaged {t : Tree} {j : Json} (damage : Damaged t.toJson j) (layer : Layer) :
    d.tree? layer j = none := by
  generalize written : t.toJson = k at damage
  refine Option.eq_none_iff_forall_ne_some.mpr fun u read => ?_
  induction damage generalizing t u layer with
  | @lost before after name value =>
    obtain ⟨listed, field, first, last⟩ := Tree.member_of_toJson written
    have lost : Entries.only? name (before ++ after) = none :=
      Entries.only?_of_not_mem (by simp [first, last])
    rcases field with rfl | field
    · obtain ⟨v, -, found, -⟩ := rules.kindOf?_of_tree? read
      rw [lost] at found
      cases found
    · have kept := rules.kindOf?_replaced listed (NodeKind.ne_type_of_mem_fields field) layer
      obtain ⟨v, found, -⟩ := rules.provides_of_tree? read kept.1 field
      rw [lost] at found
      cases found
  | @misnamed before after name old new named unknown =>
    obtain ⟨listed, field, first, last⟩ := Tree.member_of_toJson written
    rw [← listed, t.kindNamed?_members] at unknown
    have there := Entries.only?_middle first last (Json.string new)
    rcases field with rfl | field
    · obtain ⟨v, kind, found, known⟩ := rules.kindOf?_of_tree? read
      rw [there] at found
      cases found
      rw [rules.kind, NodeKind.ofTag?_eq_some_iff] at known
      rw [known] at unknown
      exact unknown (List.mem_map_of_mem kind.mem_all)
    · have kept := rules.kindOf?_replaced listed (NodeKind.ne_type_of_mem_fields field) layer
      obtain ⟨v, found, suits⟩ := rules.provides_of_tree? read (kept.2 _) field
      rw [there] at found
      cases found
      exact unknown (suits.tag named new rfl)
  | @inside before after name v w damage ih =>
    obtain ⟨listed, -, first, last⟩ := Tree.member_of_toJson written
    have member : (name, v) ∈ t.members := by simp [listed]
    obtain ⟨holds_tree, operand, rfl⟩ := Tree.operand_of_damaged member damage
    have field := NodeKind.operands_subset_fields _ holds_tree
    have kept := rules.kindOf?_replaced listed (NodeKind.ne_type_of_mem_fields field) layer
    obtain ⟨v, found, suits⟩ := rules.provides_of_tree? read (kept.2 w) field
    rw [Entries.only?_middle first last] at found
    cases found
    obtain ⟨u, inner⟩ := suits.operand holds_tree
    exact ih .inside rfl u inner

/-- A query needs its text and a tree. -/
theorem members_of_query? {members : Entries Json} {q : Query}
    (read : d.query? (.object members) = some q) : (∃ v, members.only? "text" = some v) ∧
      ∃ v, members.only? "root" = some v ∧ ∃ t, d.tree? .outermost v = some t := by
  rw [rules.query] at read
  obtain ⟨_, text, read⟩ := Option.bind_eq_some_iff.mp read
  obtain ⟨t, root, -⟩ := Option.bind_eq_some_iff.mp read
  obtain ⟨v, has_text, -⟩ := Option.bind_eq_some_iff.mp text
  obtain ⟨w, has_root, inner⟩ := Option.bind_eq_some_iff.mp root
  exact ⟨⟨v, has_text⟩, w, has_root, t, inner⟩

/-- **Nothing is read from the damaged JSON of a query**, be it its own object that is damaged or its
tree. -/
theorem query?_of_damaged {q : Query} {j : Json} (damage : Damaged q.toJson j) :
    d.query? j = none := by
  generalize written : q.toJson = k at damage
  refine Option.eq_none_iff_forall_ne_some.mpr fun u read => ?_
  cases damage with
  | @lost before after name =>
    obtain ⟨names, first, last⟩ := Query.member_of_toJson written
    have lost : Entries.only? name (before ++ after) = none :=
      Entries.only?_of_not_mem (by simp [first, last])
    obtain ⟨⟨_, text⟩, _, root, -⟩ := rules.members_of_query? read
    rcases names with ⟨rfl, -⟩ | ⟨rfl, -⟩
    · rw [lost] at text
      cases text
    · rw [lost] at root
      cases root
  | misnamed named =>
    obtain ⟨⟨rfl, -⟩ | ⟨rfl, -⟩, -⟩ := Query.member_of_toJson written
    · exact absurd named (by decide)
    · exact absurd named (by decide)
  | inside damage =>
    obtain ⟨⟨rfl, rfl⟩ | ⟨rfl, rfl⟩, first, last⟩ := Query.member_of_toJson written
    · cases damage
    · obtain ⟨-, _, root, t, inner⟩ := rules.members_of_query? read
      rw [Entries.only?_middle first last] at root
      cases root
      rw [rules.tree?_of_damaged damage] at inner
      cases inner

end Derived

/-! ## 5. The decoder of this library -/

theorem mapM_string? (texts : List String) : (texts.map Json.string).mapM string? = some texts := by
  induction texts with
  | nil => rfl
  | cons text texts ih => simp [string?, ih]

theorem withMembers?_object (layer : Layer) (members : Entries Json) :
    NodeKind.withMembers? layer (.object members) =
      (Readers.builtin.kindOf? layer members).map fun kind => (kind, members) := by
  rw [NodeKind.withMembers?, tagged?, Readers.kindOf?]
  cases members.only? "type" with
  | none => rfl
  | some tag =>
    change (NodeKind.ofJson? layer tag).bind _ = (NodeKind.ofJson? layer tag).map _
    cases NodeKind.ofJson? layer tag <;> rfl

/-- The trees in the members of an object are read as parts of it. -/
theorem readJson?_object (layer : Layer) (members : Entries Json) :
    Tree.readJson? layer (.object members) = (Readers.builtin.kindOf? layer members).bind
      (Readers.builtin.treeOf? members fun name =>
        (members.only? name).bind (Tree.readJson? .inside)) := by
  rw [Tree.readJson?]
  split
  · next kind members' read =>
    rw [withMembers?_object] at read
    obtain ⟨kind, found, same⟩ := Option.map_eq_some_iff.mp read
    cases same
    rw [found, Option.bind_some]
    congr 1
    funext name
    split
    · next value there => rw [there, Option.bind_some]
    · next missing => rw [missing, Option.bind_none]
  · next refused =>
    rw [withMembers?_object, Option.map_eq_none_iff] at refused
    rw [refused, Option.bind_none]

/-- **The decoder of this library keeps the rules.** -/
theorem derived_builtin : builtin.Derived where
  text _ := rfl
  truth _ := rfl
  texts := mapM_string?
  operator _ := rfl
  connective _ := rfl
  negation _ := rfl
  kind layer _ := by cases layer <;> rfl
  tree := readJson?_object
  query _ := rfl

end Decoder

/-! ## 6. What is read -/

namespace Query

/-- What single changes keep, any number of them keep, made or taken back. -/
theorem eq_of_eqvGen {α β : Type} {r : α → α → Prop} {f : α → β} (kept : ∀ a b, r a b → f a = f b)
    {a b : α} (h : Relation.EqvGen r a b) : f a = f b := by
  induction h with
  | rel a b step => exact kept a b step
  | refl a => rfl
  | symm a b _ ih => exact ih.symm
  | trans a b c _ _ ih ih' => exact ih.trans ih'

/-- **Queries can be exchanged as JSON.** Let a decoder keep the rules. Then for all trees, wherever
they are read, and for all queries, whether or not a text builds them:

1. what is read from the JSON of one is that one;
2. what is read from a value, if anything, is read from it after any number of unseen changes too;
3. nothing is read once the JSON of one is damaged, wherever that is. -/
theorem json_faithful (d : Decoder) (rules : d.Derived) :
    ((∀ (layer : Layer) (t : Tree), d.tree? layer t.toJson = some t) ∧
      ∀ q : Query, d.query? q.toJson = some q) ∧
    ((∀ (layer : Layer) (j k : Json),
        Relation.EqvGen (Unseen d.toReaders (.tree layer)) j k → d.tree? layer j = d.tree? layer k) ∧
      ∀ j k : Json, Relation.EqvGen (Unseen d.toReaders .query) j k → d.query? j = d.query? k) ∧
    (∀ (layer : Layer) (t : Tree) (j : Json), Damaged t.toJson j → d.tree? layer j = none) ∧
    ∀ (q : Query) (j : Json), Damaged q.toJson j → d.query? j = none := by
  refine ⟨⟨fun layer t => rules.tree?_toJson t layer, rules.query?_toJson⟩, ⟨?_, ?_⟩, ?_, ?_⟩
  · intro layer j k
    have kept : ∀ a b, Unseen d.toReaders (.tree layer) a b → d.tree? layer a = d.tree? layer b :=
      fun _ _ change => rules.readsSame_of_unseen change
    exact eq_of_eqvGen kept
  · intro j k
    have kept : ∀ a b, Unseen d.toReaders .query a b → d.query? a = d.query? b :=
      fun _ _ change => rules.readsSame_of_unseen change
    exact eq_of_eqvGen kept
  · exact fun layer t j damage => rules.tree?_of_damaged damage layer
  · exact fun q j damage => rules.query?_of_damaged damage

/-- A segment in a negated group, which no text builds, read by the decoder of this library: it comes
back, also with its members turned around and one more inside, and it is refused if the keyword
stands for the operator's name. -/
theorem json_faithful_negated_segment :
    Tree.ofJson? (Tree.not (.leaf ⟨["a"], .exact, false, [], []⟩)).toJson =
      some (.not (.leaf ⟨["a"], .exact, false, [], []⟩)) ∧
    Tree.ofJson? (Tree.not (.leaf ⟨["a"], .exact, false, [], []⟩)).toJson =
      Tree.ofJson? (.object
        [("operand", .object (("type", .string "segment") :: ("unit", .null) ::
            Segment.members ⟨["a"], .exact, false, [], []⟩)),
          ("op", .string "Not"), ("type", .string "unary")]) ∧
    Tree.ofJson? (.object
      [("type", .string "unary"), ("op", .string "Not"),
        ("operand", .object
          [("type", .string "segment"), ("path", .array [.string "a"]),
            ("operator", .string "exact"), ("negated", .boolean false), ("directives", .array []),
            ("values", .array [])])]) = none := by
  have faithful := json_faithful Decoder.builtin Decoder.derived_builtin
  refine ⟨faithful.1.1 .outermost _, faithful.2.1.1 .outermost _ _ ?_,
    faithful.2.2.1 .outermost (.not (.leaf ⟨["a"], .exact, false, [], []⟩)) _ ?_⟩
  · have extended := @Unseen.extended Readers.builtin (.tree .inside) [("type", .string "segment")]
      (Segment.members ⟨["a"], .exact, false, [], []⟩) "unit" .null (by decide)
    have inside := @Unseen.inMember Readers.builtin (.tree .outermost)
      [("type", .string "unary"), ("op", .string "Not")] [] "operand" _ _ (by decide) extended
    exact .trans _ _ _ (.rel _ _ inside) (.rel _ _ (.reordered (List.reverse_perm _).symm))
  · have misnamed := @Damaged.misnamed
      [("type", .string "segment"), ("path", .array [.string "a"])]
      [("negated", .boolean false), ("directives", .array []), ("values", .array [])]
      "operator" "Exact" "exact" (by decide) (by decide)
    exact @Damaged.inside [("type", .string "unary"), ("op", .string "Not")] [] "operand" _ _
      misnamed

end Query

end FilterQuery
