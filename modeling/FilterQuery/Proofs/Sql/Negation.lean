import FilterQuery.Proofs.Sql.Evaluation
import FilterQuery.Proofs.Sql.Ordering
import FilterQuery.Proofs.Tree.Folding
import FilterQuery.Proofs.Tree.Image

/-!
# Negation in conditions

What the negations of a tree do to the truth value of its condition, for rows of any store.

* `Ignored`, `Filtering` -- the two sorts of leaves; every leaf is of one of them;
* `truth_negate`, `truth_foldNegations` -- over leaves that filter, `negate` is the `NOT` of the
  condition, so folding negations changes no truth value;
* `Filter.build_foldNegations` -- nor does it change the values that are bound or the sort keys;
* `Tree.vacuous`, `Filter.evaluate_build_of_ignored` -- over leaves that are ignored, the condition
  does not depend on the row. It holds if no operands are negated as a group; the negation of a
  group that holds is false of every row, although nothing in it filters.
-/

namespace FilterQuery

/-! ## 1. Trees of true leaves -/

/-- The truth of a tree whose leaves are all true. -/
def Tree.vacuous : Tree → Bool
  | .noop => true
  | .leaf _ => true
  | .binary .both l r => l.vacuous && r.vacuous
  | .binary .either l r => l.vacuous || r.vacuous
  | .not t => !t.vacuous

theorem Tree.vacuous_of_no_not {t : Tree} (no_not : ∀ u, .not u ∉ t.subtrees) :
    t.vacuous = true := by
  induction t with
  | noop | leaf => rfl
  | binary connective l r left right =>
    have left := left (fun u mem => no_not u (List.mem_cons_of_mem _ (List.mem_append_left _ mem)))
    have right :=
      right (fun u mem => no_not u (List.mem_cons_of_mem _ (List.mem_append_right _ mem)))
    cases connective
    all_goals
      rw [vacuous, left, right]
      rfl
  | not t => exact absurd List.mem_cons_self (no_not t)

namespace Sql

/-! ## 2. Two sorts of leaves -/

/-- A segment is ignored: its name stands for nothing, or it has no values and does not ask whether
    there is one. -/
def Ignored (resolve : Resolver) (s : Segment) : Prop :=
  resolve s.name = none ∨ s.values = [] ∧ s.operator ≠ .isNull

/-- A segment filters: its name stands for an attribute, and it has values or asks whether there is
    one. -/
def Filtering (resolve : Resolver) (s : Segment) : Prop :=
  (∃ a, resolve s.name = some a) ∧ (s.values ≠ [] ∨ s.operator = .isNull)

theorem not_ignored_iff (resolve : Resolver) (s : Segment) :
    ¬ Ignored resolve s ↔ Filtering resolve s := by
  rw [Ignored, Filtering, not_or, Decidable.not_and_iff_or_not, ne_eq, Decidable.not_not,
    ← ne_eq, Option.ne_none_iff_exists']

instance (resolve : Resolver) (s : Segment) : Decidable (Ignored resolve s) :=
  inferInstanceAs (Decidable (_ ∨ _))

instance (resolve : Resolver) (s : Segment) : Decidable (Filtering resolve s) :=
  decidable_of_iff _ (not_ignored_iff resolve s)

theorem segmentPredicate_of_ignored {resolve : Resolver} {s : Segment}
    (ignored : Ignored resolve s) : segmentPredicate resolve s = .always := by
  unfold segmentPredicate
  cases resolved : resolve s.name with
  | none => rfl
  | some a =>
    rcases ignored with unresolved | silent
    · rw [resolved] at unresolved
      cases unresolved
    · exact if_neg fun filtering => (filters_iff s).mp filtering silent

theorem segmentPredicate_of_filtering {resolve : Resolver} {s : Segment}
    (filtering : Filtering resolve s) : ∃ a, resolve s.name = some a ∧
      segmentPredicate resolve s =
        if s.negated then .not (comparison a s) else comparison a s := by
  obtain ⟨⟨a, resolved⟩, asks⟩ := filtering
  have asked : filters s = true := by
    rw [filters_iff, Decidable.not_and_iff_or_not, ne_eq, Decidable.not_not]
    exact asks
  refine ⟨a, resolved, ?_⟩
  unfold segmentPredicate
  rw [resolved]
  exact if_pos asked

/-! ## 3. Truth values -/

section Truth

variable {δ : Type} (engine : Engine δ) (row : Row δ) {resolve : Resolver}

/-- The opposite of a segment that filters is its `NOT`. -/
theorem truth_segment_negate {s : Segment} (filtering : Filtering resolve s) :
    (segmentPredicate resolve s.negate).truth engine row =
      ((segmentPredicate resolve s).truth engine row).not := by
  obtain ⟨a, resolved, predicate⟩ := segmentPredicate_of_filtering filtering
  have opposite_filtering : Filtering resolve s.negate := filtering
  obtain ⟨b, resolved', opposite⟩ := segmentPredicate_of_filtering opposite_filtering
  have same : b = a := Option.some.inj (resolved'.symm.trans resolved)
  have unflagged : comparison a s.negate = comparison a s := rfl
  have turned : s.negate.negated = !s.negated := rfl
  rw [predicate, opposite, same, unflagged, turned]
  cases s.negated with
  | false => rfl
  | true => exact (Truth.not_not _).symm

/-- **The opposite of a tree is its `NOT`**, over leaves that filter. -/
theorem truth_negate {t : Tree} (filtering : ∀ s ∈ t.leaves, Filtering resolve s) :
    (treePredicate resolve t.negate).truth engine row =
      ((treePredicate resolve t).truth engine row).not := by
  cases t with
  | leaf s => exact truth_segment_negate engine row (filtering s (List.mem_singleton.mpr rfl))
  | not t => exact (Truth.not_not _).symm
  | noop | binary => rfl

theorem filtering_foldNegations {t : Tree} (filtering : ∀ s ∈ t.leaves, Filtering resolve s) :
    ∀ s ∈ t.foldNegations.leaves, Filtering resolve s :=
  Tree.forall_leaves_foldNegations (fun _ => Iff.rfl) filtering

/-- **Folding negations changes no truth value**, over leaves that filter. -/
theorem truth_foldNegations {t : Tree} (filtering : ∀ s ∈ t.leaves, Filtering resolve s) :
    (treePredicate resolve t.foldNegations).truth engine row =
      (treePredicate resolve t).truth engine row := by
  induction t with
  | noop | leaf => rfl
  | binary connective l r left right =>
    have left := left (fun s mem => filtering s (List.mem_append_left _ mem))
    have right := right (fun s mem => filtering s (List.mem_append_right _ mem))
    cases connective
    all_goals
      simp only [Tree.foldNegations, treePredicate, Predicate.truth]
      rw [left, right]
  | not t operand =>
    have folded : ∀ s ∈ t.foldNegations.leaves, Filtering resolve s :=
      filtering_foldNegations filtering
    rw [Tree.foldNegations, truth_negate engine row folded, operand filtering]
    rfl

/-- The condition of ignored leaves is the truth of the tree over true leaves. -/
theorem truth_of_ignored {t : Tree} (ignored : ∀ s ∈ t.leaves, Ignored resolve s) :
    (treePredicate resolve t).truth engine row = .ofBool t.vacuous := by
  induction t with
  | noop => rfl
  | leaf s =>
    have always := segmentPredicate_of_ignored (ignored s (List.mem_singleton.mpr rfl))
    rw [treePredicate, always]
    rfl
  | binary connective l r left right =>
    have left := left (fun s mem => ignored s (List.mem_append_left _ mem))
    have right := right (fun s mem => ignored s (List.mem_append_right _ mem))
    cases connective with
    | both => rw [treePredicate, Predicate.truth, left, right, Truth.and_ofBool, Tree.vacuous]
    | either => rw [treePredicate, Predicate.truth, left, right, Truth.or_ofBool, Tree.vacuous]
  | not t operand =>
    rw [treePredicate, Predicate.truth, operand ignored, Truth.not_ofBool, Tree.vacuous]

end Truth

/-! ## 4. Values and sort keys -/

/-- The values of a tree do not depend on the flags of its leaves. -/
theorem params_eq_affirmed (resolve : Resolver) (t : Tree) :
    (treePredicate resolve t).params = t.affirmedLeaves.flatMap (boundValues resolve) := by
  rw [params_treePredicate, Tree.affirmedLeaves, List.flatMap_map]
  rfl

/-- The sort keys of a tree do not depend on the flags of its leaves. -/
theorem order_eq_affirmed (resolve : Resolver) (t : Tree) :
    (Filter.ofTree resolve t).order = t.affirmedLeaves.filterMap (sortKey? resolve) := by
  rw [order_ofTree, Tree.affirmedLeaves, List.filterMap_map]
  rfl

theorem params_foldNegations (resolve : Resolver) (t : Tree) :
    (treePredicate resolve t.foldNegations).params = (treePredicate resolve t).params := by
  rw [params_eq_affirmed, params_eq_affirmed, Tree.affirmedLeaves_foldNegations]

theorem order_foldNegations (resolve : Resolver) (t : Tree) :
    (Filter.ofTree resolve t.foldNegations).order = (Filter.ofTree resolve t).order := by
  rw [order_eq_affirmed, order_eq_affirmed, Tree.affirmedLeaves_foldNegations]

/-! ## 5. Filters -/

namespace Filter

/-- **Folding negations preserves what a filter means**: over leaves that filter, the filter of a
    tree and that of the folded tree bind the same values, sort by the same keys, and have the same
    truth value for every row of every store. -/
theorem build_foldNegations (resolve : Resolver) (text folded : String) (t : Tree)
    (filtering : ∀ s ∈ t.leaves, Filtering resolve s) :
    (build resolve ⟨folded, t.foldNegations⟩).params = (build resolve ⟨text, t⟩).params ∧
    (build resolve ⟨folded, t.foldNegations⟩).orderItems =
      (build resolve ⟨text, t⟩).orderItems ∧
    ∀ {δ : Type} (engine : Engine δ) (row : Row δ), ∃ v : Truth,
      (build resolve ⟨text, t⟩).evaluate engine row = some v ∧
      (build resolve ⟨folded, t.foldNegations⟩).evaluate engine row = some v := by
  refine ⟨params_foldNegations resolve t, ?_, fun engine row => ⟨_, evaluate_build .., ?_⟩⟩
  · exact congrArg (List.map SortKey.text) (order_foldNegations resolve t)
  · rw [evaluate_build, truth_foldNegations engine row filtering]

/-- A row without a score: the condition is unknown, whether the inner negation is a `NOT` or a
    flag. The value that is no integer is dropped from both. -/
theorem build_foldNegations_missing :
    ∃ f g : Filter,
      f = build (fun name => some { path := name, kind := .integer })
        ⟨"", .not (.binary .either (.not (.leaf (.of ["score"] ["8", "high"])))
          (.leaf ((Segment.of ["age"] ["5"]).withDirective "asc")))⟩ ∧
      g = build (fun name => some { path := name, kind := .integer })
        ⟨"", .not (.binary .either (.leaf (Segment.of ["score"] ["8", "high"]).negate)
          (.leaf ((Segment.of ["age"] ["5"]).withDirective "asc")))⟩ ∧
      g.params = f.params ∧ g.orderItems = f.orderItems ∧
      f.evaluate Engine.plain (fun column => if column = ["age"] then some (.integer 3) else none) =
        some .unknown ∧
      g.evaluate Engine.plain (fun column => if column = ["age"] then some (.integer 3) else none) =
        some .unknown := by
  have filtering : ∀ s ∈ (Tree.not (.binary .either (.not (.leaf (.of ["score"] ["8", "high"])))
      (.leaf ((Segment.of ["age"] ["5"]).withDirective "asc")))).leaves,
      Filtering (fun name => some { path := name, kind := .integer }) s := by
    decide
  obtain ⟨params, order, evaluated⟩ := build_foldNegations _ "" "" _ filtering
  obtain ⟨v, given, folded⟩ := evaluated Engine.plain
    (fun column => if column = ["age"] then some (.integer 3) else none)
  have unknown : v = .unknown := by
    rw [evaluate_build] at given
    exact (Option.some.inj given).symm.trans (by rfl)
  subst unknown
  exact ⟨_, _, rfl, rfl, params, order, given, folded⟩

/-- **Ignored leaves filter nothing, but their negated groups do**: the condition of a query whose
    leaves are all ignored has the same truth value for every row of every store, and it is true if
    no operands are negated as a group. -/
theorem evaluate_build_of_ignored (resolve : Resolver) (q : Query)
    (ignored : ∀ s ∈ q.root.leaves, Ignored resolve s) :
    (∀ {δ : Type} (engine : Engine δ) (row : Row δ),
      (build resolve q).evaluate engine row = some (.ofBool q.root.vacuous)) ∧
    ((∀ u, .not u ∉ q.root.subtrees) → q.root.vacuous = true) := by
  refine ⟨fun engine row => ?_, Tree.vacuous_of_no_not⟩
  rw [evaluate_build, truth_of_ignored engine row ignored]

/-- Unknown names and sort directives without a negated group. -/
theorem evaluate_build_of_ignored_mixed :
    (build (fun name => if name = "age" then some { path := name, kind := .integer } else none)
      ⟨"!nick=zed;(age:desc&nick=x)", .binary .either (.leaf (Segment.of ["nick"] ["zed"]).negate)
        (.binary .both (.leaf ((Segment.of ["age"] []).withDirective "desc"))
          (.leaf (.of ["nick"] ["x"])))⟩).evaluate Engine.plain (fun _ => none) = some .true := by
  obtain ⟨evaluated, -⟩ := evaluate_build_of_ignored
    (fun name => if name = "age" then some { path := name, kind := .integer } else none)
    ⟨"!nick=zed;(age:desc&nick=x)", .binary .either (.leaf (Segment.of ["nick"] ["zed"]).negate)
        (.binary .both (.leaf ((Segment.of ["age"] []).withDirective "desc"))
          (.leaf (.of ["nick"] ["x"])))⟩ (by decide)
  exact evaluated Engine.plain (fun _ => none)

/-- **A negated group hides every row**, even if no name in it stands for anything. -/
theorem negated_group_hides :
    ∃ q, Query.parse {} "!(a=1&b=2)" = .ok q ∧
      (∀ s ∈ q.root.leaves, Ignored (fun _ => none) s) ∧
      ∀ {δ : Type} (engine : Engine δ) (row : Row δ),
        (build (fun _ => none) q).evaluate engine row = some .false := by
  have read : Query.parse {} "!(a=1&b=2)" = .ok
      { text := "!(a=1&b=2)"
        root := .not (.binary .both (.leaf (.of ["a"] ["1"])) (.leaf (.of ["b"] ["2"]))) } := by
    rfl
  refine ⟨_, read, by decide, fun engine row => ?_⟩
  rw [evaluate_build]
  rfl

end Filter

end Sql

end FilterQuery
