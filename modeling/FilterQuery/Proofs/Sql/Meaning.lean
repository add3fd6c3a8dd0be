import FilterQuery.Proofs.Sql.Expressions
import FilterQuery.Sql.Filter

/-!
# What the condition of a query means

The condition of a query is read back as the tree of the query, node for node. Names never change
how it is read: whatever stands in a path, it stays inside the quotes of its column.

* `segmentMeaning`, `treeMeaning` -- the expression that a tree asks for, from the tree itself;
* `meaning_treePredicate` -- it is the expression of the predicate that is built;
* `named_treePredicate` -- every column of that predicate is the storage path of a segment;
* `readCondition_build` -- so the condition is read as what the tree asks for, and its columns are
  the paths of attributes, cut at every dot, with the rest of a segment's path behind them.
-/

namespace FilterQuery

/-! ## 1. Columns -/

theorem Attribute.storagePath_ne_nil (a : Attribute) (s : Segment) : a.storagePath s ≠ [] := by
  have some_part := List.splitOn_ne_nil '.' a.path.toList
  intro empty
  have no_part := (List.append_eq_nil_iff.mp empty).1
  exact some_part (List.map_eq_nil_iff.mp no_part)

/-- **A column is the path of its attribute, cut at every dot, and the rest of the segment's path
    behind it.** What a segment adds is not cut. -/
theorem Attribute.storagePath_eq (a : Attribute) (s : Segment) :
    ∃ parts, a.storagePath s = parts ++ s.path.tail ∧ ".".intercalate parts = a.path ∧
      ∀ part ∈ parts, '.' ∉ part.toList := by
  refine ⟨(a.path.toList.splitOn '.').map String.ofList, rfl, ?_, ?_⟩
  · rw [← String.toList_inj, String.toList_intercalate, List.map_map]
    simp only [Function.comp_def, String.toList_ofList, List.map_id']
    exact List.intercalate_splitOn '.'
  · intro part mem
    obtain ⟨piece, piece_mem, rfl⟩ := List.mem_map.mp mem
    rw [String.toList_ofList]
    exact not_mem_of_mem_splitOn piece_mem

namespace Sql

/-! ## 2. What a tree asks for -/

/-- What an operator asks of a column and one value. Only text has a case to be ignored. -/
def compared (operator : Operator) (kind : Kind) (column : Expr) : Expr :=
  match operator with
  | .exact | .oneOf => .compare .equal column .placeholder
  | .iexact =>
    if kind = .text then .compare .equal (.call "lower" [column]) (.call "lower" [.placeholder])
    else .compare .equal column .placeholder
  | .lessThan => .compare .less column .placeholder
  | .lessOrEqual => .compare .lessOrEqual column .placeholder
  | .greaterThan => .compare .greater column .placeholder
  | .greaterOrEqual => .compare .greaterOrEqual column .placeholder
  | .regex => .call "regexp_matches" [.cast column "VARCHAR", .placeholder]
  | .isNull => .compare .equal (.isNull column) .placeholder

/-- What a segment that filters asks of a column, before its negation. The values are those that
    can be cleaned. -/
def asked (a : Attribute) (s : Segment) (column : Expr) (values : List Value) : Expr :=
  if s.values = [] then .isNull column
  else if values = [] then .truth false
  else if s.operator = .oneOf then .isIn column (values.map (fun _ => .placeholder))
  else anyOf (values.map (fun _ => compared s.operator a.kind column))

/-- What a segment asks of a row. -/
def segmentMeaning (resolve : Resolver) (s : Segment) : Expr :=
  match resolve s.name with
  | none => .truth true
  | some a =>
    if s.values = [] ∧ s.operator ≠ .isNull then .truth true
    else
      let e := asked a s (.column (a.storagePath s)) (s.values.filterMap (cleanFor s.operator a.kind))
      if s.negated then .not e else e

/-- What a tree asks of a row, node for node. -/
def treeMeaning (resolve : Resolver) : Tree → Expr
  | .noop => .truth true
  | .leaf s => segmentMeaning resolve s
  | .binary .both l r => .and (treeMeaning resolve l) (treeMeaning resolve r)
  | .binary .either l r => .or (treeMeaning resolve l) (treeMeaning resolve r)
  | .not t => .not (treeMeaning resolve t)

/-! ## 3. What is built -/

theorem meaning_testFor (operator : Operator) (kind : Kind) (column : Expr) :
    (testFor operator kind).meaning column = compared operator kind column := by
  cases operator with
  | iexact =>
    by_cases text : kind = .text
    · simp only [testFor, compared, if_pos text, Test.meaning]
    · simp only [testFor, compared, if_neg text, Test.meaning]
  | exact | lessThan | lessOrEqual | greaterThan | greaterOrEqual | regex | isNull | oneOf => rfl

/-- The predicate of a filtering segment asks what the segment asks. -/
theorem meaning_comparison (a : Attribute) (s : Segment) :
    (comparison a s).meaning =
      asked a s (.column (a.storagePath s)) (s.values.filterMap (cleanFor s.operator a.kind)) := by
  unfold comparison asked
  by_cases none_given : s.values = []
  · rw [if_pos (List.isEmpty_iff.mpr none_given), if_pos none_given]
    rfl
  · rw [if_neg (fun h => none_given (List.isEmpty_iff.mp h)), if_neg none_given]
    by_cases one_of : s.operator = .oneOf
    · rw [if_pos one_of, if_pos one_of]
      rfl
    · rw [if_neg one_of, if_neg one_of]
      simp only [Predicate.meaning, meaning_testFor]
      by_cases none_left : s.values.filterMap (cleanFor s.operator a.kind) = []
      · rw [if_pos none_left, cleanValues, none_left]
        rfl
      · rw [if_neg none_left]
        rfl

theorem filters_iff (s : Segment) :
    filters s = true ↔ ¬ (s.values = [] ∧ s.operator ≠ .isNull) := by
  simp only [filters, Bool.or_eq_true, Bool.not_eq_true', List.isEmpty_eq_false_iff, beq_iff_eq]
  by_cases none_given : s.values = []
  · simp only [none_given, ne_eq, not_true_eq_false, false_or, true_and, Decidable.not_not]
  · simp only [none_given, ne_eq, not_false_eq_true, true_or, false_and]

theorem meaning_segmentPredicate (resolve : Resolver) (s : Segment) :
    (segmentPredicate resolve s).meaning = segmentMeaning resolve s := by
  unfold segmentPredicate segmentMeaning
  cases resolve s.name with
  | none => rfl
  | some a =>
    by_cases ignored : s.values = [] ∧ s.operator ≠ .isNull
    · have silent : ¬ filters s = true := fun h => (filters_iff s).mp h ignored
      simp only [if_pos ignored, if_neg silent, Predicate.meaning]
    · have filtering : filters s = true := (filters_iff s).mpr ignored
      simp only [if_neg ignored, if_pos filtering]
      by_cases negated : s.negated = true
      · simp only [if_pos negated, Predicate.meaning, meaning_comparison]
      · simp only [if_neg negated, meaning_comparison]

/-- **The predicate of a tree asks what the tree asks.** -/
theorem meaning_treePredicate (resolve : Resolver) (t : Tree) :
    (treePredicate resolve t).meaning = treeMeaning resolve t := by
  induction t with
  | noop => rfl
  | leaf s => exact meaning_segmentPredicate resolve s
  | binary connective l r left right =>
    cases connective
    all_goals simp only [treePredicate, treeMeaning, Predicate.meaning, left, right]
  | not t operand => simp only [treePredicate, treeMeaning, Predicate.meaning, operand]

/-- The columns of a segment's predicate are its storage path. -/
theorem columns_segmentPredicate (resolve : Resolver) (s : Segment) :
    ∀ column ∈ (segmentPredicate resolve s).columns,
      ∃ a, resolve s.name = some a ∧ column = columnOf a s := by
  unfold segmentPredicate
  cases resolve s.name with
  | none => exact nofun
  | some a =>
    have columns : (comparison a s).columns = [columnOf a s] := by
      unfold comparison
      split
      · rfl
      · split <;> rfl
    intro column mem
    refine ⟨a, rfl, ?_⟩
    by_cases filtering : filters s = true
    · simp only [if_pos filtering] at mem
      by_cases negated : s.negated = true
      · simp only [if_pos negated, Predicate.columns, columns] at mem
        exact List.mem_singleton.mp mem
      · simp only [if_neg negated, columns] at mem
        exact List.mem_singleton.mp mem
    · simp only [if_neg filtering] at mem
      cases mem

/-- **Every column of a condition is the storage path of a segment**, so it has a name. -/
theorem named_treePredicate (resolve : Resolver) (t : Tree) :
    ∀ column ∈ (treePredicate resolve t).columns, column.Named := by
  induction t with
  | noop => exact nofun
  | leaf s =>
    intro column mem
    obtain ⟨a, -, rfl⟩ := columns_segmentPredicate resolve s column mem
    exact a.storagePath_ne_nil s
  | binary connective l r left right =>
    cases connective
    all_goals
      intro column mem
      rcases List.mem_append.mp mem with mem | mem
      · exact left column mem
      · exact right column mem
  | not t operand => exact operand

/-! ## 4. What is read -/

/-- **The condition of a query means what its tree asks for**: for every tree and every resolver,
    all of the text is read, and it is read as the tree node for node. The column that a segment is
    compared in is the path of its attribute, cut at every dot, and the rest of its own path. -/
theorem readCondition_build (resolve : Resolver) (q : Query) :
    readCondition (Filter.build resolve q).condition = some (treeMeaning resolve q.root) ∧
    ∀ (a : Attribute) (s : Segment), ∃ parts, a.storagePath s = parts ++ s.path.tail ∧
      ".".intercalate parts = a.path ∧ ∀ part ∈ parts, '.' ∉ part.toList := by
  have named := named_treePredicate resolve q.root
  refine ⟨?_, fun a s => a.storagePath_eq s⟩
  rw [← meaning_treePredicate]
  exact readCondition_text named

example :
    readCondition (Filter.build (fun _ => some { path := "x\" = ? OR TRUE", kind := .integer })
      ⟨"", .leaf (.of ["n"] ["1"])⟩).condition =
      some (.compare .equal (.column ["x\" = ? OR TRUE"]) .placeholder) := by rfl

end Sql

end FilterQuery
