import FilterQuery.Sql.Filter

/-!
# Conditions do not show values

A client chooses the values of a query freely, but no text that is handed to the store depends on
them. All that does count is how many values of a leaf are left after cleaning, since each of these
has a placeholder.

* `Predicate.mapValues` -- a condition with other values in the places of its own. Its words are the
  same, whatever the values become (`text_mapValues`);
* `Predicate.redacted` -- a condition with all values blacked out. Two conditions that are equal
  then have the same words (`text_eq_of_redacted`);
* `Alike`, `AlikeTrees` -- two queries that agree in everything but their values, and of these in
  how many can be cleaned;
* `redacted_treePredicate` -- blacked out, their conditions are equal, node by node;
* `Filter.build_alike` -- so the texts of their filters are.
-/

namespace FilterQuery.Sql

/-! ## 1. Conditions with other values -/

namespace Predicate

/-- A condition with its values replaced, each in its place. -/
def mapValues (f : Value → Value) : Predicate → Predicate
  | .always => .always
  | .isNull column => .isNull column
  | .passes test column values => .passes test column (values.map f)
  | .member column values => .member column (values.map f)
  | .and l r => .and (l.mapValues f) (r.mapValues f)
  | .or l r => .or (l.mapValues f) (r.mapValues f)
  | .not p => .not (p.mapValues f)

theorem passesText_map (f : Value → Value) (test : Test) (column : String) :
    ∀ values : List Value, passesText test column (values.map f) = passesText test column values
  | [] => rfl
  | [_] => rfl
  | v :: w :: values => by
    simp only [passesText, List.map_cons, List.map_map]
    rfl

theorem memberText_map (f : Value → Value) (column : String) :
    ∀ values : List Value, memberText column (values.map f) = memberText column values
  | [] => rfl
  | v :: values => by
    simp only [memberText, List.map_cons, List.map_map]
    rfl

/-- **Values are no words of a condition.** -/
theorem text_mapValues (f : Value → Value) (p : Predicate) : (p.mapValues f).text = p.text := by
  induction p with
  | always | isNull => rfl
  | passes test column values => exact passesText_map f test column.text values
  | member column values => exact memberText_map f column.text values
  | and l r left right | or l r left right => rw [mapValues, text, text, left, right]
  | not p operand => rw [mapValues, text, text, operand]

theorem params_mapValues (f : Value → Value) (p : Predicate) :
    (p.mapValues f).params = p.params.map f := by
  induction p with
  | always | isNull | passes | member => rfl
  | and l r left right | or l r left right =>
    rw [mapValues, params, params, List.map_append, left, right]
  | not p operand => exact operand

/-! ## 2. Conditions without values -/

/-- A condition with the same value everywhere. -/
def redacted (p : Predicate) : Predicate :=
  p.mapValues fun _ => .boolean false

theorem redacted_and (l r : Predicate) : (l.and r).redacted = l.redacted.and r.redacted := rfl

theorem redacted_or (l r : Predicate) : (l.or r).redacted = l.redacted.or r.redacted := rfl

theorem redacted_not (p : Predicate) : p.not.redacted = p.redacted.not := rfl

theorem text_redacted (p : Predicate) : p.redacted.text = p.text :=
  text_mapValues _ p

/-- Conditions that differ in nothing but their values have the same words. -/
theorem text_eq_of_redacted {p q : Predicate} (h : p.redacted = q.redacted) : p.text = q.text := by
  rw [← text_redacted p, ← text_redacted q, h]

/-- They have as many values, too. -/
theorem length_params_eq_of_redacted {p q : Predicate} (h : p.redacted = q.redacted) :
    p.params.length = q.params.length := by
  have same := congrArg (fun r => r.params.length) h
  simpa only [redacted, params_mapValues, List.length_map] using same

theorem redacted_passes {values others : List Value} (same : values.length = others.length)
    (test : Test) (column : Column) :
    (passes test column values).redacted = (passes test column others).redacted := by
  simp only [redacted, mapValues, List.map_const', same]

theorem redacted_member {values others : List Value} (same : values.length = others.length)
    (column : Column) : (member column values).redacted = (member column others).redacted := by
  simp only [redacted, mapValues, List.map_const', same]

end Predicate

/-! ## 3. Queries that agree but for their values -/

/-- Two segments that differ in nothing but their values. Either both have some or neither has, and
    if their name stands for an attribute, as many of them can be cleaned. -/
structure Alike (resolve : Resolver) (s t : Segment) : Prop where
  path : s.path = t.path
  operator : s.operator = t.operator
  negated : s.negated = t.negated
  directives : s.directives = t.directives
  given : s.values = [] ↔ t.values = []
  cleaned : ∀ a ∈ resolve s.name, (cleanValues a s).length = (cleanValues a t).length

/-- Two trees of one shape, with leaves that are alike. -/
inductive AlikeTrees (resolve : Resolver) : Tree → Tree → Prop
  | noop : AlikeTrees resolve .noop .noop
  | leaf {s t : Segment} (alike : Alike resolve s t) : AlikeTrees resolve (.leaf s) (.leaf t)
  | binary {l r l' r' : Tree} (connective : Connective) (left : AlikeTrees resolve l l')
      (right : AlikeTrees resolve r r') :
      AlikeTrees resolve (.binary connective l r) (.binary connective l' r')
  | not {t t' : Tree} (operand : AlikeTrees resolve t t') : AlikeTrees resolve (.not t) (.not t')

namespace Alike

variable {resolve : Resolver} {s t : Segment}

theorem name_eq (h : Alike resolve s t) : s.name = t.name := by
  unfold Segment.name
  rw [h.path]

theorem columnOf_eq (h : Alike resolve s t) (a : Attribute) : columnOf a s = columnOf a t := by
  unfold columnOf Attribute.storagePath Segment.subpath
  rw [h.path]

theorem isEmpty_eq (h : Alike resolve s t) : s.values.isEmpty = t.values.isEmpty := by
  rw [Bool.eq_iff_iff, List.isEmpty_iff, List.isEmpty_iff]
  exact h.given

theorem filters_eq (h : Alike resolve s t) : filters s = filters t := by
  unfold filters
  rw [h.isEmpty_eq, h.operator]

/-- What alike segments ask differs in nothing but the values. -/
theorem redacted_comparison (h : Alike resolve s t) {a : Attribute}
    (resolved : a ∈ resolve s.name) : (comparison a s).redacted = (comparison a t).redacted := by
  unfold comparison
  rw [h.isEmpty_eq, h.columnOf_eq, h.operator]
  split
  · rfl
  · split
    · exact Predicate.redacted_member (h.cleaned a resolved) _
    · exact Predicate.redacted_passes (h.cleaned a resolved) _ _

theorem redacted_segmentPredicate (h : Alike resolve s t) :
    (segmentPredicate resolve s).redacted = (segmentPredicate resolve t).redacted := by
  unfold segmentPredicate
  rw [← h.name_eq]
  cases resolved : resolve s.name with
  | none => rfl
  | some a =>
    have same := h.redacted_comparison resolved
    simp only
    rw [h.filters_eq, h.negated]
    split
    · split
      · rw [Predicate.redacted_not, Predicate.redacted_not, same]
      · exact same
    · rfl

theorem sortKey?_eq (h : Alike resolve s t) : sortKey? resolve s = sortKey? resolve t := by
  unfold sortKey?
  rw [h.name_eq, h.directives]
  simp only [h.columnOf_eq]

end Alike

/-- **The conditions of alike trees differ in nothing but their values.** -/
theorem redacted_treePredicate {resolve : Resolver} {t u : Tree} (h : AlikeTrees resolve t u) :
    (treePredicate resolve t).redacted = (treePredicate resolve u).redacted := by
  induction h with
  | noop => rfl
  | leaf alike => exact alike.redacted_segmentPredicate
  | binary connective _ _ left right =>
    cases connective with
    | both =>
      rw [treePredicate, treePredicate, Predicate.redacted_and, Predicate.redacted_and, left, right]
    | either =>
      rw [treePredicate, treePredicate, Predicate.redacted_or, Predicate.redacted_or, left, right]
  | not _ operand =>
    rw [treePredicate, treePredicate, Predicate.redacted_not, Predicate.redacted_not, operand]

/-- Alike trees ask for the same order. -/
theorem order_of_alike {resolve : Resolver} {t u : Tree} (h : AlikeTrees resolve t u) :
    t.leaves.filterMap (sortKey? resolve) = u.leaves.filterMap (sortKey? resolve) := by
  induction h with
  | noop => rfl
  | leaf alike => simp only [Tree.leaves, List.filterMap_cons, alike.sortKey?_eq]
  | binary _ _ _ left right =>
    rw [Tree.leaves, Tree.leaves, List.filterMap_append, List.filterMap_append, left, right]
  | not _ operand => exact operand

/-! ## 4. Filters -/

namespace Filter

/-- **Values never reach the text**: two queries that agree in all but their values, and in how many
    of these can be cleaned, have the same condition and the same sort keys, letter for letter. Only
    the values that are bound may differ, and there are as many of them. -/
theorem build_alike {resolve : Resolver} {q r : Query} (h : AlikeTrees resolve q.root r.root) :
    (build resolve q).condition = (build resolve r).condition ∧
    (build resolve q).orderItems = (build resolve r).orderItems ∧
    (build resolve q).params.length = (build resolve r).params.length := by
  have redacted := redacted_treePredicate h
  refine ⟨Predicate.text_eq_of_redacted redacted, ?_,
    Predicate.length_params_eq_of_redacted redacted⟩
  unfold orderItems build ofTree
  rw [Walk.toList_of, Walk.toList_of, order_of_alike h]

/-- Values that look like SQL, one that is no number, and a name that stands for nothing. -/
theorem build_alike_hostile :
    ∃ resolve : Resolver, ∃ q r : Query,
      q.root = .binary .both (.leaf { path := ["name"], directives := ["asc"], values := ["ada"] })
        (.not (.binary .either
          (.leaf { path := ["age"], operator := .oneOf, values := ["1", "x", "2"] })
          (.leaf { path := ["nick"], values := ["a", "b"] }))) ∧
      r.root = .binary .both
        (.leaf { path := ["name"], directives := ["asc"], values := ["\" = ? OR TRUE --"] })
        (.not (.binary .either
          (.leaf { path := ["age"], operator := .oneOf, values := ["-7", " 08 "] })
          (.leaf { path := ["nick"], values := ["'); DROP TABLE people"] }))) ∧
      (build resolve r).condition =
        "(lower(\"name\") = lower(?) AND NOT ((\"age\" IN (?, ?) OR TRUE)))" ∧
      (build resolve r).orderItems = (build resolve q).orderItems := by
  let resolve : Resolver := fun name =>
    if name = "name" then some { path := "name", kind := .text }
    else if name = "age" then some { path := "age", kind := .integer }
    else none
  have alike : AlikeTrees resolve
      (.binary .both (.leaf { path := ["name"], directives := ["asc"], values := ["ada"] })
        (.not (.binary .either
          (.leaf { path := ["age"], operator := .oneOf, values := ["1", "x", "2"] })
          (.leaf { path := ["nick"], values := ["a", "b"] }))))
      (.binary .both
        (.leaf { path := ["name"], directives := ["asc"], values := ["\" = ? OR TRUE --"] })
        (.not (.binary .either
          (.leaf { path := ["age"], operator := .oneOf, values := ["-7", " 08 "] })
          (.leaf { path := ["nick"], values := ["'); DROP TABLE people"] })))) :=
    .binary .both (.leaf ⟨rfl, rfl, rfl, rfl, by decide, by decide⟩)
      (.not (.binary .either (.leaf ⟨rfl, rfl, rfl, rfl, by decide, by decide⟩)
        (.leaf ⟨rfl, rfl, rfl, rfl, by decide, by decide⟩)))
  obtain ⟨condition, order, -⟩ := build_alike (q := ⟨"", _⟩) (r := ⟨"", _⟩) alike
  exact ⟨resolve, ⟨"", _⟩, ⟨"", _⟩, rfl, rfl, condition.symm.trans (by rfl), order.symm⟩

end Filter

end FilterQuery.Sql
