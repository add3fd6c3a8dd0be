import FilterQuery.Proofs.Pieces
import FilterQuery.Proofs.Sql.Placeholders
import FilterQuery.Sql.Filter

/-!
# Placeholders and the values that are bound to them

The store binds the values of a condition to its placeholders by position. A value reaches the
comparison that it was cleaned for only if both come in the same order, with nothing left out.

* `Laid` -- a text that is made of comparisons, in order, and of pieces without placeholders;
* `Laid.place` -- in such a text a placeholder stands in the comparison that it is counted for;
* `Predicate.laid_text` -- the text of a predicate is made of its comparisons;
* `params_treePredicate`, `part_of_leaf` -- the values of a tree are those of its leaves, and every
  leaf has its part of the text;
* `LinedUp` -- placeholders and values line up, with what that means for each value;
* `linedUp_build` -- they do, for every query and every resolver.
-/

namespace FilterQuery.Sql

/-! ## 1. Texts that are made of comparisons -/

/-- The text of a comparison and the values that are bound to its placeholders. -/
structure Comparison where
  text : String
  values : List Value

/-- A text that is made of comparisons, from left to right, and of pieces without placeholders. -/
inductive Laid : List Char → List Comparison → Prop
  | silent {w : List Char} (h : Holds 0 w) : Laid w []
  | comparison {c : Comparison} (h : Holds c.values.length c.text.toList) : Laid c.text.toList [c]
  | append {w v : List Char} {cs ds : List Comparison} (first : Laid w cs) (second : Laid v ds) :
      Laid (w ++ v) (cs ++ ds)

/-- The `k`-th placeholder of a text stands in a part of it, with `before` placeholders in front of
    that part. -/
def PlaceholderIn (text part : List Char) (before k : Nat) : Prop :=
  ∃ pre post offset, text = pre ++ (part ++ post) ∧ (placeholders pre).length = before ∧
    (placeholders text)[k]? = some offset ∧
    pre.length ≤ offset ∧ offset < pre.length + part.length

namespace PlaceholderIn

/-- What stands behind a text changes nothing in it. -/
theorem left {w part : List Char} {before k : Nat} (h : PlaceholderIn w part before k)
    (closed : quotedAfter false w = false) (v : List Char) :
    PlaceholderIn (w ++ v) part before k := by
  obtain ⟨pre, post, offset, rfl, count, found, least, most⟩ := h
  refine ⟨pre, post ++ v, offset, by simp only [List.append_assoc], count, ?_, least, most⟩
  obtain ⟨inside, -⟩ := List.getElem?_eq_some_iff.mp found
  rw [placeholders_append closed, List.getElem?_append_left inside, found]

/-- What stands in front of a text moves its placeholders. -/
theorem right {v part : List Char} {before k : Nat} (h : PlaceholderIn v part before k)
    {w : List Char} (closed : quotedAfter false w = false) :
    PlaceholderIn (w ++ v) part ((placeholders w).length + before)
      ((placeholders w).length + k) := by
  obtain ⟨pre, post, offset, rfl, count, found, least, most⟩ := h
  refine ⟨w ++ pre, post, w.length + offset, by simp only [List.append_assoc], ?_, ?_, ?_, ?_⟩
  · rw [placeholders_append closed, List.length_append, List.length_map, count]
  · rw [placeholders_append closed, List.getElem?_append_right (Nat.le_add_right _ _),
      Nat.add_sub_cancel_left, List.getElem?_map, found]
    rfl
  · rw [List.length_append]
    omega
  · rw [List.length_append]
    omega

end PlaceholderIn

namespace Laid

/-- **As many placeholders as values.** -/
theorem holds {w : List Char} {cs : List Comparison} (h : Laid w cs) :
    Holds (cs.flatMap Comparison.values).length w := by
  induction h with
  | silent h => exact h
  | comparison h =>
    rw [List.flatMap_singleton]
    exact h
  | append _ _ first second =>
    rw [List.flatMap_append, List.length_append]
    exact first.append second

/-- **A placeholder stands in the comparison that it is counted for.** -/
theorem place {w : List Char} {cs : List Comparison} (h : Laid w cs) :
    ∀ {k : Nat}, k < (cs.flatMap Comparison.values).length →
      ∃ before c after j, cs = before ++ c :: after ∧
        k = (before.flatMap Comparison.values).length + j ∧ j < c.values.length ∧
        PlaceholderIn w c.text.toList (before.flatMap Comparison.values).length k := by
  induction h with
  | silent => exact fun bound => absurd bound (Nat.not_lt_zero _)
  | @comparison c holds =>
    intro k bound
    rw [List.flatMap_singleton] at bound
    have inside : k < (placeholders c.text.toList).length := by
      rw [holds.length_eq]
      exact bound
    have found := List.getElem?_eq_getElem inside
    have within := lt_length_of_mem_placeholders (List.mem_of_getElem? found)
    exact ⟨[], c, [], k, rfl, (Nat.zero_add k).symm, bound, [], [], _,
      by rw [List.append_nil, List.nil_append], rfl, found, Nat.zero_le _,
      by rw [List.length_nil, Nat.zero_add]; exact within⟩
  | @append w v cs ds first second in_first in_second =>
    intro k bound
    rw [List.flatMap_append, List.length_append] at bound
    have closed := first.holds.closed
    have count := first.holds.length_eq
    -- The values of the first text come first, and so do its placeholders.
    by_cases early : k < (cs.flatMap Comparison.values).length
    · obtain ⟨before, c, after, j, rfl, k_eq, j_lt, there⟩ := in_first early
      exact ⟨before, c, after ++ ds, j, by simp only [List.append_assoc, List.cons_append], k_eq,
        j_lt, there.left closed v⟩
    · obtain ⟨k', rfl⟩ : ∃ k', k = (cs.flatMap Comparison.values).length + k' :=
        ⟨k - (cs.flatMap Comparison.values).length, by omega⟩
      obtain ⟨before, c, after, j, rfl, k_eq, j_lt, there⟩ := in_second (k := k') (by omega)
      have moved := there.right closed
      rw [count] at moved
      refine ⟨cs ++ before, c, after, j, (List.append_assoc ..).symm, ?_, j_lt, ?_⟩
      · rw [List.flatMap_append, List.length_append]
        omega
      · rw [List.flatMap_append, List.length_append]
        exact moved

end Laid

/-! ## 2. Predicates -/

namespace Predicate

/-- The comparisons of a predicate, from left to right. -/
def comparisons : Predicate → List Comparison
  | .always | .isNull _ => []
  | .passes test column values => values.map (fun v => ⟨test.text column.text, [v]⟩)
  | .member column values =>
    if values = [] then [] else [⟨memberText column.text values, values⟩]
  | .and l r | .or l r => l.comparisons ++ r.comparisons
  | .not p => p.comparisons

/-- The comparisons of one test per value, each but the first behind an `OR`. -/
theorem laid_alternatives {column : String} (h : Holds 0 column.toList) (test : Test) (v : Value)
    (values : List Value) :
    Laid (" OR ".toList.intercalate ((v :: values).map (fun _ => (test.text column).toList)))
      ((v :: values).map (fun v => ⟨test.text column, [v]⟩)) := by
  have one : ∀ v : Value, Laid (test.text column).toList [⟨test.text column, [v]⟩] :=
    fun v => Laid.comparison (c := ⟨test.text column, [v]⟩) (test.holds_text h)
  induction values generalizing v with
  | nil =>
    rw [List.map_singleton, List.intercalate_singleton]
    exact one v
  | cons w values ih =>
    have separator : Laid " OR ".toList [] := .silent ⟨rfl, rfl⟩
    have whole := (one v).append (separator.append (ih w))
    rw [List.map_cons, List.map_cons, List.intercalate_cons_cons, List.append_assoc]
    exact whole

theorem laid_passesText {column : String} (h : Holds 0 column.toList) (test : Test) :
    ∀ values : List Value, Laid (passesText test column values).toList
      (values.map (fun v => ⟨test.text column, [v]⟩))
  | [] => .silent (show Holds 0 "FALSE".toList from ⟨rfl, rfl⟩)
  | [v] => Laid.comparison (c := ⟨test.text column, [v]⟩) (test.holds_text h)
  | v :: w :: values => by
    have opening : Laid "(".toList [] := .silent ⟨rfl, rfl⟩
    have closing : Laid ")".toList [] := .silent ⟨rfl, rfl⟩
    have inside := laid_alternatives h test v (w :: values)
    have whole := opening.append (inside.append closing)
    rw [List.nil_append, List.append_nil] at whole
    simpa only [passesText, String.toList_append, String.toList_intercalate, List.map_map,
      List.append_assoc, Function.comp_def] using whole

/-- **The text of a predicate is made of its comparisons.** -/
theorem laid_text (p : Predicate) : Laid p.text.toList p.comparisons := by
  induction p with
  | always => exact .silent (show Holds 0 "TRUE".toList from ⟨rfl, rfl⟩)
  | isNull column =>
    rw [text, String.toList_append]
    exact .silent (column.holds_text.behind ⟨rfl, rfl⟩)
  | passes test column values => exact laid_passesText column.holds_text test values
  | member column values =>
    have held := holds_memberText column.holds_text values
    rw [comparisons]
    by_cases none_left : values = []
    · rw [if_pos none_left]
      subst none_left
      exact .silent held
    · rw [if_neg none_left]
      exact Laid.comparison (c := ⟨memberText column.text values, values⟩) held
  | and l r left right | or l r left right =>
    have opening : Laid "(".toList [] := .silent ⟨rfl, rfl⟩
    have closing : Laid ")".toList [] := .silent ⟨rfl, rfl⟩
    have behind := right.append closing
    rw [List.append_nil] at behind
    simp only [text, String.toList_append, List.append_assoc]
    exact opening.append (left.append (.append (.silent ⟨rfl, rfl⟩) behind))
  | not p operand =>
    have opening : Laid "NOT (".toList [] := .silent ⟨rfl, rfl⟩
    have closing : Laid ")".toList [] := .silent ⟨rfl, rfl⟩
    have whole := opening.append (operand.append closing)
    rw [List.nil_append, List.append_nil] at whole
    simp only [text, String.toList_append, List.append_assoc]
    exact whole

/-- The values of a predicate are those of its comparisons, in the same order. -/
theorem params_eq (p : Predicate) : p.params = p.comparisons.flatMap Comparison.values := by
  induction p with
  | always | isNull => rfl
  | passes test column values =>
    simp only [params, comparisons, List.flatMap_map, List.flatMap_singleton']
  | member column values =>
    rw [params, comparisons]
    by_cases none_left : values = []
    · rw [if_pos none_left, none_left]
      rfl
    · rw [if_neg none_left, List.flatMap_singleton]
  | and l r left right | or l r left right =>
    rw [params, comparisons, List.flatMap_append, left, right]
  | not p operand => exact operand

end Predicate

/-! ## 3. Leaves -/

/-- The values that a leaf binds: those that can be cleaned, in their order. -/
def boundValues (resolve : Resolver) (s : Segment) : List Value :=
  match resolve s.name with
  | none => []
  | some a => s.values.filterMap (cleanFor s.operator a.kind)

/-- The comparisons that are produced for a leaf: one list for `in`, and otherwise one test for each
    value. -/
def comparisonsOf (a : Attribute) (s : Segment) : List Comparison :=
  let column := (columnOf a s).text
  let values := s.values.filterMap (cleanFor s.operator a.kind)
  if s.operator = .oneOf then
    if values = [] then [] else [⟨Predicate.memberText column values, values⟩]
  else values.map (fun v => ⟨(testFor s.operator a.kind).text column, [v]⟩)

/-- The comparisons of a leaf; none if its name stands for nothing. -/
def leafComparisons (resolve : Resolver) (s : Segment) : List Comparison :=
  match resolve s.name with
  | none => []
  | some a => comparisonsOf a s

/-- A value is of the kind that an attribute stores. -/
def Stores : Kind → Value → Prop
  | .text, .text _ => True
  | .integer, .integer _ => True
  | .float, .float x => x.isFinite = true
  | .boolean, .boolean _ => True
  | _, _ => False

/-- A value is of the kind that an operator compares an attribute with. -/
def Fits (operator : Operator) (kind : Kind) (v : Value) : Prop :=
  match operator with
  | .regex => ∃ pattern, v = .text pattern
  | .isNull => ∃ b, v = .boolean b
  | _ => Stores kind v

theorem stores_of_clean {kind : Kind} {raw : String} {v : Value} (h : kind.clean raw = some v) :
    Stores kind v := by
  cases kind with
  | text =>
    cases h
    trivial
  | integer =>
    obtain ⟨n, -, rfl⟩ := Option.map_eq_some_iff.mp h
    trivial
  | float =>
    obtain ⟨x, read, rfl⟩ := Option.map_eq_some_iff.mp h
    obtain ⟨d, -, finite⟩ := Option.bind_eq_some_iff.mp read
    exact Numeric.Decimal.isFinite_of_toFinite? finite
  | boolean =>
    obtain ⟨b, -, rfl⟩ := Option.map_eq_some_iff.mp h
    trivial

/-- **Cleaning gives a value of the kind that is compared.** -/
theorem fits_of_cleanFor {operator : Operator} {kind : Kind} {raw : String} {v : Value}
    (h : cleanFor operator kind raw = some v) : Fits operator kind v := by
  cases operator with
  | regex =>
    cases h
    exact ⟨raw, rfl⟩
  | isNull =>
    obtain ⟨b, -, rfl⟩ := Option.map_eq_some_iff.mp h
    exact ⟨b, rfl⟩
  | exact | iexact | lessThan | lessOrEqual | greaterThan | greaterOrEqual | oneOf =>
    exact stores_of_clean h

theorem values_comparisonsOf (a : Attribute) (s : Segment) :
    (comparisonsOf a s).flatMap Comparison.values =
      s.values.filterMap (cleanFor s.operator a.kind) := by
  unfold comparisonsOf
  by_cases one_of : s.operator = .oneOf
  · simp only [if_pos one_of]
    by_cases none_left : s.values.filterMap (cleanFor s.operator a.kind) = []
    · rw [if_pos none_left, none_left]
      rfl
    · rw [if_neg none_left, List.flatMap_singleton]
  · simp only [if_neg one_of, List.flatMap_map, List.flatMap_singleton']

theorem values_leafComparisons (resolve : Resolver) (s : Segment) :
    (leafComparisons resolve s).flatMap Comparison.values = boundValues resolve s := by
  unfold leafComparisons boundValues
  cases resolve s.name with
  | none => rfl
  | some a => exact values_comparisonsOf a s

/-! ## 4. Trees -/

/-- What a filtering segment asks is made of the comparisons that are produced for it. -/
theorem comparisons_comparison (a : Attribute) (s : Segment) :
    (comparison a s).comparisons = comparisonsOf a s := by
  unfold comparison comparisonsOf
  by_cases none_given : s.values = []
  · rw [if_pos (List.isEmpty_iff.mpr none_given), none_given]
    by_cases one_of : s.operator = .oneOf
    · rw [if_pos one_of]
      rfl
    · rw [if_neg one_of]
      rfl
  · rw [if_neg (fun h => none_given (List.isEmpty_iff.mp h))]
    by_cases one_of : s.operator = .oneOf
    · rw [if_pos one_of, if_pos one_of]
      rfl
    · rw [if_neg one_of, if_neg one_of]
      rfl

theorem comparisons_segmentPredicate (resolve : Resolver) (s : Segment) :
    (segmentPredicate resolve s).comparisons = leafComparisons resolve s := by
  unfold segmentPredicate leafComparisons
  cases resolve s.name with
  | none => rfl
  | some a =>
    by_cases filtering : filters s = true
    · simp only [if_pos filtering]
      by_cases negated : s.negated = true
      · rw [if_pos negated, Predicate.comparisons, comparisons_comparison]
      · rw [if_neg negated, comparisons_comparison]
    · simp only [if_neg filtering, Predicate.comparisons]
      have none_given : s.values = [] := by
        simp only [filters, Bool.or_eq_true, Bool.not_eq_true', not_or, Bool.not_eq_false,
          List.isEmpty_iff] at filtering
        exact filtering.1
      unfold comparisonsOf
      rw [none_given]
      split <;> rfl

/-- **A tree is made of the comparisons of its leaves**, from left to right. -/
theorem comparisons_treePredicate (resolve : Resolver) (t : Tree) :
    (treePredicate resolve t).comparisons = t.leaves.flatMap (leafComparisons resolve) := by
  induction t with
  | noop => rfl
  | leaf s =>
    rw [treePredicate, Tree.leaves, List.flatMap_singleton, comparisons_segmentPredicate]
  | binary connective l r left right =>
    cases connective
    all_goals rw [treePredicate, Predicate.comparisons, Tree.leaves, List.flatMap_append, left, right]
  | not t operand => exact operand

/-- **The values of a tree are those of its leaves**, from left to right. -/
theorem params_treePredicate (resolve : Resolver) (t : Tree) :
    (treePredicate resolve t).params = t.leaves.flatMap (boundValues resolve) := by
  rw [Predicate.params_eq, comparisons_treePredicate, List.flatMap_assoc]
  simp only [values_leafComparisons]

/-- The text of a tree has a placeholder for each value of its leaves. -/
theorem holds_treePredicate (resolve : Resolver) (t : Tree) :
    Holds (t.leaves.flatMap (boundValues resolve)).length (treePredicate resolve t).text.toList := by
  have held := (treePredicate resolve t).laid_text.holds
  rw [comparisons_treePredicate, List.flatMap_assoc] at held
  simpa only [values_leafComparisons] using held

/-- The text of a connective: both sides in brackets, with a word between them. -/
theorem text_binary (resolve : Resolver) (connective : Connective) (l r : Tree) :
    ∃ word, Holds 0 word ∧ (treePredicate resolve (.binary connective l r)).text.toList =
      "(".toList ++ ((treePredicate resolve l).text.toList ++
        (word ++ ((treePredicate resolve r).text.toList ++ ")".toList))) := by
  cases connective with
  | both =>
    refine ⟨" AND ".toList, ⟨rfl, rfl⟩, ?_⟩
    simp only [treePredicate, Predicate.text, String.toList_append, List.append_assoc]
  | either =>
    refine ⟨" OR ".toList, ⟨rfl, rfl⟩, ?_⟩
    simp only [treePredicate, Predicate.text, String.toList_append, List.append_assoc]

/-- **Every leaf has its part of the text**, and in front of it stand the placeholders of the leaves
    in front of it. -/
theorem part_of_leaf (resolve : Resolver) (t : Tree) :
    ∀ {before after : List Segment} {s : Segment}, t.leaves = before ++ s :: after →
      ∃ pre post, (treePredicate resolve t).text.toList =
          pre ++ ((segmentPredicate resolve s).text.toList ++ post) ∧
        Holds (before.flatMap (boundValues resolve)).length pre := by
  have opening : Holds 0 "(".toList := ⟨rfl, rfl⟩
  induction t with
  | noop =>
    intro before after s split
    exact absurd split.symm (List.append_ne_nil_of_right_ne_nil _ (List.cons_ne_nil s after))
  | leaf own =>
    intro before after s split
    cases before with
    | nil =>
      cases split
      exact ⟨[], [], by rw [List.append_nil]; rfl, ⟨rfl, rfl⟩⟩
    | cons first before =>
      have too_long := congrArg List.length split
      simp only [Tree.leaves, List.length_cons, List.length_nil, List.length_append] at too_long
      omega
  | not t operand =>
    intro before after s split
    obtain ⟨pre, post, text_eq, held⟩ := operand split
    refine ⟨"NOT (".toList ++ pre, post ++ ")".toList, ?_, Holds.behind ⟨rfl, rfl⟩ held⟩
    simp only [treePredicate, Predicate.text, String.toList_append, text_eq, List.append_assoc]
  | binary connective l r left right =>
    intro before after s split
    obtain ⟨word, silent, text_eq⟩ := text_binary resolve connective l r
    rw [text_eq]
    rcases append_eq_append_cons split with ⟨rest, before_eq, right_split⟩ | ⟨rest, left_split, -⟩
    · obtain ⟨pre, post, right_eq, held⟩ := right right_split
      have in_front := (holds_treePredicate resolve l).append (silent.behind held)
      refine ⟨"(".toList ++ ((treePredicate resolve l).text.toList ++ (word ++ pre)),
        post ++ ")".toList, ?_, ?_⟩
      · simp only [right_eq, List.append_assoc]
      · rw [before_eq, List.flatMap_append, List.length_append]
        exact opening.behind in_front
    · obtain ⟨pre, post, left_eq, held⟩ := left left_split
      refine ⟨"(".toList ++ pre, post ++ (word ++ ((treePredicate resolve r).text.toList ++
        ")".toList)), ?_, opening.behind held⟩
      simp only [left_eq, List.append_assoc]

/-! ## 5. Lining up -/

/-- A comparison in a tree: the leaf that it is produced for, with the leaves around that, and the
    comparisons of the same leaf around it. -/
structure Occurrence (resolve : Resolver) (t : Tree) where
  before : List Segment
  leaf : Segment
  after : List Segment
  attr : Attribute
  earlier : List Comparison
  comparison : Comparison
  later : List Comparison
  leaves_eq : t.leaves = before ++ leaf :: after
  resolved : resolve leaf.name = some attr
  comparisons_eq : comparisonsOf attr leaf = earlier ++ comparison :: later

/-- The number of values that are bound in front of a comparison. -/
def Occurrence.bound {resolve : Resolver} {t : Tree} (o : Occurrence resolve t) : Nat :=
  (o.before.flatMap (boundValues resolve)).length + (o.earlier.flatMap Comparison.values).length

/-- Placeholders and values line up. -/
structure LinedUp (resolve : Resolver) (t : Tree) (f : Filter) : Prop where
  /-- There are as many placeholders as values. -/
  count : (placeholders f.condition.toList).length = f.params.length
  /-- The values are those of the leaves, from left to right. -/
  params_eq : f.params = t.leaves.flatMap (boundValues resolve)
  /-- Every leaf has its part of the condition, with a placeholder for each of its values. In front
      of it stand the placeholders of the leaves in front of it. -/
  parts : ∀ before s after, t.leaves = before ++ s :: after → ∃ pre part post,
    f.condition.toList = pre ++ (part ++ post) ∧
    part = (Filter.ofTree resolve (.leaf s)).condition.toList ∧
    Holds (before.flatMap (boundValues resolve)).length pre ∧
    Holds (boundValues resolve s).length part
  /-- The `k`-th value is bound by a leaf of the tree, and it fits that leaf. The `k`-th placeholder
      stands in the comparison that is produced for that leaf and that value. -/
  place : ∀ k v, f.params[k]? = some v → ∃ (o : Occurrence resolve t) (j : Nat),
    k = o.bound + j ∧ o.comparison.values[j]? = some v ∧
    PlaceholderIn f.condition.toList o.comparison.text.toList o.bound k ∧
    Fits o.leaf.operator o.attr.kind v
  /-- A leaf whose name stands for nothing, or that has no values, binds none, and there is no
      placeholder in its part of the condition. -/
  silent : ∀ s ∈ t.leaves, resolve s.name = none ∨ s.values = [] →
    boundValues resolve s = [] ∧
      placeholders (Filter.ofTree resolve (.leaf s)).condition.toList = []

/-- The comparison that a part of the list of all comparisons ends in. -/
theorem occurrence_of_comparisons {resolve : Resolver} {t : Tree} {before after : List Comparison}
    {c : Comparison} (h : t.leaves.flatMap (leafComparisons resolve) = before ++ c :: after) :
    ∃ o : Occurrence resolve t, o.comparison = c ∧
      o.bound = (before.flatMap Comparison.values).length := by
  obtain ⟨ws, s, zs, earlier, later, leaves_eq, here, rfl⟩ := flatMap_eq_append_cons _ h
  cases resolved : resolve s.name with
  | none =>
    rw [leafComparisons, resolved] at here
    exact absurd here.symm (List.append_ne_nil_of_right_ne_nil _ (List.cons_ne_nil c later))
  | some a =>
    rw [leafComparisons, resolved] at here
    refine ⟨⟨ws, s, zs, a, earlier, c, later, leaves_eq, resolved, here⟩, rfl, ?_⟩
    have values : ws.flatMap (boundValues resolve) =
        (ws.flatMap (leafComparisons resolve)).flatMap Comparison.values := by
      rw [List.flatMap_assoc]
      simp only [values_leafComparisons]
    show (ws.flatMap (boundValues resolve)).length + _ = _
    rw [List.flatMap_append, List.length_append, values]

/-- The values of a comparison fit the leaf that it is produced for. -/
theorem Occurrence.fits {resolve : Resolver} {t : Tree} (o : Occurrence resolve t) {v : Value}
    (mem : v ∈ o.comparison.values) : Fits o.leaf.operator o.attr.kind v := by
  have among : v ∈ (comparisonsOf o.attr o.leaf).flatMap Comparison.values := by
    rw [o.comparisons_eq, List.mem_flatMap]
    exact ⟨o.comparison, List.mem_append_right _ List.mem_cons_self, mem⟩
  rw [values_comparisonsOf] at among
  obtain ⟨raw, -, cleaned⟩ := List.mem_filterMap.mp among
  exact fits_of_cleanFor cleaned

/-- A leaf binds nothing if its name stands for nothing or it has no values. -/
theorem boundValues_eq_nil {resolve : Resolver} {s : Segment}
    (ignored : resolve s.name = none ∨ s.values = []) : boundValues resolve s = [] := by
  unfold boundValues
  rcases ignored with unresolved | none_given
  · rw [unresolved]
  · rw [none_given]
    split <;> rfl

/-- The text of a leaf has a placeholder for each of its values. -/
theorem holds_segmentPredicate (resolve : Resolver) (s : Segment) :
    Holds (boundValues resolve s).length (segmentPredicate resolve s).text.toList := by
  have held := (segmentPredicate resolve s).laid_text.holds
  rw [comparisons_segmentPredicate, values_leafComparisons] at held
  exact held

/-- **Placeholders and values line up**, for every tree and every resolver. -/
theorem linedUp_build (resolve : Resolver) (q : Query) :
    LinedUp resolve q.root (Filter.build resolve q) := by
  have laid := (treePredicate resolve q.root).laid_text
  have params := (treePredicate resolve q.root).params_eq
  rw [comparisons_treePredicate] at laid params
  constructor
  · show _ = (treePredicate resolve q.root).params.length
    rw [params]
    exact laid.holds.length_eq
  · show (treePredicate resolve q.root).params = _
    rw [params, List.flatMap_assoc]
    simp only [values_leafComparisons]
  · intro before s after split
    obtain ⟨pre, post, text_eq, held⟩ := part_of_leaf resolve q.root split
    exact ⟨pre, _, post, text_eq, rfl, held, holds_segmentPredicate resolve s⟩
  · intro k v found
    have found : (treePredicate resolve q.root).params[k]? = some v := found
    rw [params] at found
    obtain ⟨inside, -⟩ := List.getElem?_eq_some_iff.mp found
    obtain ⟨before, c, after, j, parted, rfl, j_lt, there⟩ := laid.place inside
    obtain ⟨o, rfl, bound_eq⟩ := occurrence_of_comparisons parted
    have value : o.comparison.values[j]? = some v := by
      rw [parted, List.flatMap_append, List.getElem?_append_right (Nat.le_add_right _ _),
        Nat.add_sub_cancel_left, List.flatMap_cons, List.getElem?_append_left j_lt] at found
      exact found
    rw [← bound_eq] at there ⊢
    exact ⟨o, j, rfl, value, there, o.fits (List.mem_of_getElem? value)⟩
  · intro s _ ignored
    have none_bound := boundValues_eq_nil ignored
    have held := (holds_segmentPredicate resolve s).length_eq
    rw [none_bound] at held
    exact ⟨none_bound, List.eq_nil_of_length_eq_zero held⟩

end FilterQuery.Sql
