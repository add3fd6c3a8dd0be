import FilterQuery.Tree.Encoding

/-!
# Changes to JSON values

Programs that exchange queries need not write the same JSON for them, and what arrives may have been
damaged on its way. This file fixes two kinds of changes to a JSON value, and says what they do to
the members that are found by name:

* `Role` -- an object is read as a query or as a tree; `Role.reads` are the names that are looked up
  in it then, and `Role.operands` those of them that hold trees;
* `Unseen` -- a change that no look-up shows: the members of an object in another order, one more
  member under a name that is not looked up, or such a change inside of a tree that a member holds;
* `Damaged` -- a change that some look-up shows: a member is lost, a name stands in it that names
  nothing, or there is damage further inside.
-/

namespace FilterQuery

/-! ## 1. Entries -/

namespace Entries

variable {α : Type} {name : String}

/-- **The order of entries makes no difference.** -/
theorem only?_perm {xs ys : Entries α} (same : xs.Perm ys) : xs.only? name = ys.only? name := by
  have filtered := same.filter fun entry => entry.1 == name
  have count := filtered.length_eq
  unfold only?
  generalize xs.filter (fun entry => entry.1 == name) = found at filtered count ⊢
  generalize ys.filter (fun entry => entry.1 == name) = found' at filtered count ⊢
  match found, found' with
  | [], [] => rfl
  | [entry], [entry'] => rw [List.singleton_perm_singleton.mp filtered]
  | _ :: _ :: _, _ :: _ :: _ => rfl

/-- An entry of another name makes no difference. -/
theorem only?_middle_of_ne {key : String} (other : key ≠ name) (before after : Entries α)
    (value : α) : only? name (before ++ (key, value) :: after) = only? name (before ++ after) := by
  unfold only?
  rw [List.filter_append, List.filter_append, List.filter_cons_of_neg (by simpa using other)]

theorem filter_middle (before after : Entries α) (value : α) :
    (before ++ (name, value) :: after).filter (fun entry => entry.1 == name) =
      before.filter (fun entry => entry.1 == name) ++
        (name, value) :: after.filter (fun entry => entry.1 == name) := by
  rw [List.filter_append, List.filter_cons, if_pos (beq_self_eq_true name)]

theorem filter_of_not_mem {entries : Entries α} (absent : name ∉ entries.map Prod.fst) :
    entries.filter (fun entry => entry.1 == name) = [] := by
  refine List.filter_eq_nil_iff.mpr fun entry member same => absent ?_
  rw [← eq_of_beq same]
  exact List.mem_map_of_mem member

/-- A name that is not there is not found. -/
theorem only?_of_not_mem {entries : Entries α} (absent : name ∉ entries.map Prod.fst) :
    entries.only? name = none := by
  rw [only?, filter_of_not_mem absent]

/-- An entry is found if no other one has its name. -/
theorem only?_middle {before after : Entries α} (first : name ∉ before.map Prod.fst)
    (last : name ∉ after.map Prod.fst) (value : α) :
    only? name (before ++ (name, value) :: after) = some value := by
  rw [only?, filter_middle, filter_of_not_mem first, filter_of_not_mem last]
  rfl

/-- Where an entry holds another thing, its name is found before and after, or neither time. -/
theorem only?_replaced (before after : Entries α) (old new : α) :
    only? name (before ++ (name, old) :: after) = none ∧
      only? name (before ++ (name, new) :: after) = none ∨
    only? name (before ++ (name, old) :: after) = some old ∧
      only? name (before ++ (name, new) :: after) = some new := by
  rw [only?, only?, filter_middle, filter_middle]
  generalize before.filter (fun entry => entry.1 == name) = front
  generalize after.filter (fun entry => entry.1 == name) = back
  match front, back with
  | [], [] => exact .inr ⟨rfl, rfl⟩
  | [], _ :: _ => exact .inl ⟨rfl, rfl⟩
  | [_], _ => exact .inl ⟨rfl, rfl⟩
  | _ :: _ :: _, _ => exact .inl ⟨rfl, rfl⟩

/-- Where every name stands once, an entry is the only one of its name. -/
theorem not_mem_of_nodup {before after : Entries α} {value : α}
    (distinct : ((before ++ (name, value) :: after).map Prod.fst).Nodup) :
    name ∉ before.map Prod.fst ∧ name ∉ after.map Prod.fst := by
  rw [List.map_append, List.map_cons, List.perm_middle.nodup_iff, List.nodup_cons,
    List.mem_append, not_or] at distinct
  exact distinct.1

end Entries

/-! ## 2. Changes that are not seen -/

/-- The members of a kind of node that hold trees. -/
def NodeKind.operands : NodeKind → List String
  | .binary => ["left", "right"]
  | .unary => ["operand"]
  | _ => []

namespace Json

/-- What an object is read as. -/
inductive Role where
  | query
  | tree (layer : Layer)

namespace Role

/-- The names that are looked up among members. Those of a tree depend on its kind of node. -/
def reads (r : Readers) : Role → Entries Json → List String
  | .query, _ => ["text", "root"]
  | .tree layer, members => "type" :: (r.kindOf? layer members).elim [] NodeKind.fields

/-- The names among them whose members hold trees. -/
def operands (r : Readers) : Role → Entries Json → List String
  | .query, _ => ["root"]
  | .tree layer, members => (r.kindOf? layer members).elim [] NodeKind.operands

/-- Where these trees are read. -/
def inner : Role → Layer
  | .query => .outermost
  | .tree _ => .inside

end Role

/-- One change that is not seen, in a value or in a tree that is part of it. -/
inductive Unseen (r : Readers) : Role → Json → Json → Prop
  | reordered {role : Role} {members others : Entries Json} (same : members.Perm others) :
      Unseen r role (.object members) (.object others)
  | extended {role : Role} {before after : Entries Json} {name : String} {value : Json}
      (unread : name ∉ role.reads r (before ++ after)) :
      Unseen r role (.object (before ++ after)) (.object (before ++ (name, value) :: after))
  | inMember {role : Role} {before after : Entries Json} {name : String} {v w : Json}
      (operand : name ∈ role.operands r (before ++ (name, v) :: after))
      (inside : Unseen r (.tree role.inner) v w) :
      Unseen r role (.object (before ++ (name, v) :: after))
        (.object (before ++ (name, w) :: after))

/-! ## 3. Damage -/

/-- The kind of node whose name stands among members. -/
def kindNamed? (members : Entries Json) : Option NodeKind :=
  ((members.only? "type").bind string?).bind NodeKind.ofTag?

/-- The names that may stand in a member, for the members that hold a name. -/
def tags (kind : Option NodeKind) : String → List String
  | "type" => NodeKind.all.map NodeKind.tag
  | "op" => if kind = some .unary then ["Not"] else ["And", "Or"]
  | "operator" => Operator.all.map Operator.tag
  | _ => []

/-- The members that hold a name. -/
def tagNames : List String := ["type", "op", "operator"]

/-- One piece of damage. Objects stand in members only, and not in arrays. -/
inductive Damaged : Json → Json → Prop
  | lost {before after : Entries Json} {name : String} {value : Json} :
      Damaged (.object (before ++ (name, value) :: after)) (.object (before ++ after))
  | misnamed {before after : Entries Json} {name old new : String} (named : name ∈ tagNames)
      (unknown : new ∉ tags (kindNamed? (before ++ (name, .string old) :: after)) name) :
      Damaged (.object (before ++ (name, .string old) :: after))
        (.object (before ++ (name, .string new) :: after))
  | inside {before after : Entries Json} {name : String} {v w : Json} (damage : Damaged v w) :
      Damaged (.object (before ++ (name, v) :: after)) (.object (before ++ (name, w) :: after))

end Json

end FilterQuery
