import FilterQuery.Proofs.Clause.RoundTrip
import FilterQuery.Proofs.Grammar.Acceptance
import FilterQuery.Proofs.Tree.Folding

/-!
# Canonical queries read back

The canonical text of a tree that was read is read as that tree, under the same nesting limit.

* `Normal` -- what every text with clauses builds: readable leaves, no empty query inside, and a
  negation only over two joined operands, because any other one is folded away;
* `nesting` -- how deep the groups of the canonical text are nested;
* `normal_of_body` -- a derivation builds a normal tree whose canonical text is nested no deeper
  than the derivation;
* `derives_foldNegations` -- whatever its leaves, as long as they can be written, the canonical text
  of a tree derives that tree with its negations folded;
* `derives_of_normal` -- so the canonical text of a normal tree derives that tree.
-/

namespace FilterQuery

open Grammar

/-! ## 1. Leaves -/

/-- A segment without the marks that join and group clauses. -/
def Segment.Ungrouped (s : Segment) : Prop :=
  ∀ c, s.HasChar c → isGroupingMark c = false

theorem Segment.ungrouped_names {names : List String}
    (h : ∀ p ∈ names, ∀ c ∈ p.toList, isGroupingMark c = false) {sep : Char}
    (plain : isGroupingMark sep = false) :
    ∀ c ∈ [sep].intercalate (names.map String.toList), isGroupingMark c = false := by
  intro c hc
  rcases mem_of_mem_intercalate hc with ⟨_, piece, hc⟩ | hc
  · obtain ⟨p, hp, rfl⟩ := List.mem_map.mp piece
    exact h p hp c hc
  · rw [List.mem_singleton.mp hc]
    exact plain

/-- A word of the language itself is checked character by character. -/
theorem Segment.ungrouped_of_all {text : List Char}
    (h : text.all (fun c => !isGroupingMark c) = true) : ∀ c ∈ text, isGroupingMark c = false := by
  intro c hc
  rw [← Bool.not_eq_true']
  exact List.all_eq_true.mp h c hc

theorem Segment.ungrouped_symbol {op : Operator} {symbol : String} (h : op.symbol? = some symbol) :
    ∀ c ∈ symbol.toList, isGroupingMark c = false := by
  apply ungrouped_of_all
  cases op <;> cases h <;> decide

theorem Segment.ungrouped_keyword (op : Operator) :
    ∀ c ∈ op.keyword.toList, isGroupingMark c = false := by
  apply ungrouped_of_all
  cases op <;> decide

theorem Segment.ungrouped_head {s : Segment}
    (names : ∀ p ∈ s.path, ∀ c ∈ p.toList, isGroupingMark c = false)
    (directives : ∀ d ∈ s.directives, ∀ c ∈ d.toList, isGroupingMark c = false) :
    ∀ c ∈ s.writtenHead.text, isGroupingMark c = false := by
  have written : ∀ p ∈ s.writtenHead.path, ∀ c ∈ p.toList, isGroupingMark c = false := by
    refine List.forall_mem_append.mpr ⟨List.forall_mem_append.mpr ⟨names, ?_⟩, ?_⟩
    · intro p hp
      split at hp
      · rw [List.mem_singleton.mp hp]
        exact ungrouped_of_all (by decide)
      · cases hp
    · intro p hp
      split at hp
      · rw [List.mem_singleton.mp hp]
        exact ungrouped_keyword s.operator
      · cases hp
  intro c hc
  rw [Head.text_eq, List.mem_append, List.mem_flatMap] at hc
  rcases hc with hc | ⟨d, hd, hc⟩
  · exact ungrouped_names written (by decide) c hc
  · rcases List.mem_cons.mp hc with rfl | hc
    · decide
    · exact directives d hd c hc

theorem Segment.ungrouped_comparison {s : Segment}
    (values : ∀ v ∈ s.values, ∀ c ∈ v.toList, isGroupingMark c = false) :
    ∀ c ∈ s.writtenComparison, isGroupingMark c = false := by
  intro c hc
  unfold writtenComparison writtenSymbol at hc
  split at hc
  · cases hc
  · rcases List.mem_append.mp hc with hc | hc
    · split at hc
      · exact @ungrouped_symbol .standard _ rfl c hc
      · cases spelled : s.operator.symbol? with
        | none =>
          rw [spelled] at hc
          exact @ungrouped_symbol .standard _ rfl c hc
        | some symbol =>
          rw [spelled] at hc
          exact ungrouped_symbol spelled c hc
    · exact ungrouped_names values (by decide) c hc

/-- The canonical text of a segment brings in no grouping mark. -/
theorem Segment.ungrouped_render {s : Segment} (some_component : s.path ≠ []) (h : s.Ungrouped) :
    ∀ c ∈ s.render.toList, isGroupingMark c = false := by
  have marks : ∀ c ∈ List.replicate s.writtenMarks '!', isGroupingMark c = false := by
    intro c hc
    rw [List.eq_of_mem_replicate hc]
    decide
  have names : ∀ p ∈ s.path, ∀ c ∈ p.toList, isGroupingMark c = false := fun p hp c hc =>
    h c ⟨p, List.mem_append_left _ (List.mem_append_left _ hp), hc⟩
  have directives : ∀ d ∈ s.directives, ∀ c ∈ d.toList, isGroupingMark c = false := fun d hd c hc =>
    h c ⟨d, List.mem_append_left _ (List.mem_append_right _ hd), hc⟩
  have values : ∀ v ∈ s.values, ∀ c ∈ v.toList, isGroupingMark c = false := fun v hv c hc =>
    h c ⟨v, List.mem_append_right _ hv, hc⟩
  have head := ungrouped_head names directives
  have comparison := ungrouped_comparison values
  rw [toList_render some_component]
  exact List.forall_mem_append.mpr ⟨marks, List.forall_mem_append.mpr ⟨head, comparison⟩⟩

theorem Segment.parse_ofList_eq_ok_iff {w : List Char} {s : Segment} :
    Segment.parse (String.ofList w) = .ok s ↔ Segment.read w = .ok s := by
  rw [parse_eq_ok_iff, String.toList_ofList]

/-! ## 2. Normal trees -/

namespace Tree

/-- The trees that a text with clauses builds. -/
def Normal : Tree → Prop
  | .noop => False
  | .leaf s => s.Readable ∧ s.Ungrouped
  | .binary _ l r => l.Normal ∧ r.Normal
  | .not t => t.isBinary = true ∧ t.Normal

/-- The number of groups of the canonical text that stand inside each other. -/
def nesting : Tree → Nat
  | .noop => 0
  | .leaf _ => 0
  | .binary _ l r => max l.nesting (if r.isBinary then r.nesting + 1 else r.nesting)
  | .not t => t.nesting + 1

/-- The same for a tree that stands as a right operand. -/
def operandNesting (t : Tree) : Nat :=
  if t.isBinary then t.nesting + 1 else t.nesting

theorem nesting_le_operandNesting (t : Tree) : t.nesting ≤ t.operandNesting := by
  unfold operandNesting
  split <;> omega

theorem operandNesting_le (t : Tree) : t.operandNesting ≤ t.nesting + 1 := by
  unfold operandNesting
  split <;> omega

/-- A negation that is folded into a normal tree leaves it normal, and nests it no deeper than the
    group that it was written in front of. -/
theorem normal_negate {t : Tree} (h : t.Normal) :
    t.negate.Normal ∧ t.negate.operandNesting ≤ t.nesting + 1 := by
  cases t with
  | noop => exact h.elim
  | leaf s =>
    obtain ⟨⟨some_component, path, directives, values, equals⟩, ungrouped⟩ := h
    exact ⟨⟨⟨some_component, path, directives, values, equals⟩, ungrouped⟩, Nat.zero_le _⟩
  | binary connective l r => exact ⟨⟨rfl, h⟩, Nat.le_refl _⟩
  | not t =>
    refine ⟨h.2, ?_⟩
    show t.operandNesting ≤ t.nesting + 1 + 1
    have := operandNesting_le t
    omega

mutual

theorem normal_of_operand {depth : Nat} {w : List Char} {t : Tree} (h : Operand depth w t) :
    t.Normal ∧ t.operandNesting ≤ depth := by
  match h with
  | .clause _ ungrouped parsed =>
    have read := Segment.parse_ofList_eq_ok_iff.mp parsed
    exact ⟨⟨Segment.readable_of_read read,
      fun c hc => ungrouped c (Segment.mem_text_of_read read hc)⟩, Nat.zero_le _⟩
  | .group body =>
    obtain ⟨normal, nested⟩ := normal_of_body body
    have := operandNesting_le t
    exact ⟨normal, by omega⟩
  | .negatedGroup body =>
    obtain ⟨normal, nested⟩ := normal_of_body body
    obtain ⟨folded, shallow⟩ := normal_negate normal
    exact ⟨folded, by omega⟩
termination_by structural h

/-- **A derivation builds a normal tree** whose canonical text needs no more room. -/
theorem normal_of_body {depth : Nat} {w : List Char} {t : Tree} (h : Body depth w t) :
    t.Normal ∧ t.nesting ≤ depth := by
  match h with
  | .single operand =>
    obtain ⟨normal, nested⟩ := normal_of_operand operand
    exact ⟨normal, Nat.le_trans (nesting_le_operandNesting t) nested⟩
  | .join body _ operand =>
    obtain ⟨left, left_nested⟩ := normal_of_body body
    obtain ⟨right, right_nested⟩ := normal_of_operand operand
    exact ⟨⟨left, right⟩, Nat.max_le.mpr ⟨left_nested, right_nested⟩⟩
termination_by structural h

end

/-! ## 3. The canonical text derives -/

/-- The text of a tree that stands as a right operand. -/
def operandText (t : Tree) : List Char :=
  if t.isBinary then '(' :: t.render.toList ++ [')'] else t.render.toList

theorem toList_render_binary (connective : Connective) (l r : Tree) :
    (Tree.binary connective l r).render.toList =
      l.render.toList ++ connective.mark :: r.operandText := by
  unfold operandText
  rw [render, String.toList_append, String.toList_append, List.append_assoc]
  split <;> simp [Char.toString_eq_singleton]

theorem toList_render_not (t : Tree) :
    (Tree.not t).render.toList = '!' :: '(' :: t.render.toList ++ [')'] := by
  rw [render, String.toList_append, String.toList_append]
  rfl

/-- The trees whose leaves can be written, and which have some everywhere. -/
def Writable : Tree → Prop
  | .noop => False
  | .leaf s => s.Readable ∧ s.Ungrouped
  | .binary _ l r => l.Writable ∧ r.Writable
  | .not t => t.Writable

/-- **The canonical text of a tree derives the tree with its negations folded**, in whichever place
    it stands. -/
theorem derives_foldNegations : ∀ {t : Tree}, t.Writable →
    (∀ depth, t.nesting ≤ depth → Body depth t.render.toList t.foldNegations) ∧
    (∀ depth, t.operandNesting ≤ depth → Operand depth t.operandText t.foldNegations)
  | .noop, h => h.elim
  | .leaf s, ⟨readable, ungrouped⟩ => by
    have operand : ∀ depth, Operand depth s.render.toList (.leaf s) := by
      intro depth
      have read := Segment.read_render readable
      refine .clause ?_ (Segment.ungrouped_render readable.path_ne_nil ungrouped)
        (Segment.parse_ofList_eq_ok_iff.mpr read)
      intro empty
      rw [empty] at read
      cases read
    exact ⟨fun depth _ => .single (operand depth), fun depth _ => operand depth⟩
  | .binary connective l r, ⟨left, right⟩ => by
    have body : ∀ depth, (Tree.binary connective l r).nesting ≤ depth →
        Body depth (Tree.binary connective l r).render.toList
          (Tree.binary connective l r).foldNegations := by
      intro depth nested
      obtain ⟨left_nested, right_nested⟩ := Nat.max_le.mp nested
      rw [toList_render_binary]
      exact .join ((derives_foldNegations left).1 depth left_nested) connective
        ((derives_foldNegations right).2 depth right_nested)
    refine ⟨body, ?_⟩
    intro depth nested
    cases depth with
    | zero => cases nested
    | succ depth => exact .group (body depth (Nat.le_of_succ_le_succ nested))
  | .not t, h => by
    have writable : t.Writable := h
    have operand : ∀ depth, (Tree.not t).nesting ≤ depth →
        Operand depth (Tree.not t).render.toList (Tree.not t).foldNegations := by
      intro depth nested
      cases depth with
      | zero => cases nested
      | succ depth =>
        rw [toList_render_not]
        exact .negatedGroup
          ((derives_foldNegations writable).1 depth (Nat.le_of_succ_le_succ nested))
    exact ⟨fun depth nested => .single (operand depth nested), operand⟩

/-- A normal tree can be written, and its negations are folded already. -/
theorem foldNegations_of_normal {t : Tree} (h : t.Normal) : t.Writable ∧ t.foldNegations = t := by
  induction t with
  | noop => exact h.elim
  | leaf s => exact ⟨h, rfl⟩
  | binary connective l r left right =>
    obtain ⟨left_writable, left_folded⟩ := left h.1
    obtain ⟨right_writable, right_folded⟩ := right h.2
    refine ⟨⟨left_writable, right_writable⟩, ?_⟩
    rw [foldNegations, left_folded, right_folded]
  | not t operand =>
    obtain ⟨writable, folded⟩ := operand h.2
    refine ⟨writable, ?_⟩
    rw [foldNegations, folded]
    cases t with
    | binary => rfl
    | noop | leaf | not => cases h.1

/-- **The canonical text of a normal tree derives that tree**, in whichever place it stands. -/
theorem derives_of_normal {t : Tree} (h : t.Normal) :
    (∀ depth, t.nesting ≤ depth → Body depth t.render.toList t) ∧
    (∀ depth, t.operandNesting ≤ depth → Operand depth t.operandText t) := by
  obtain ⟨writable, folded⟩ := foldNegations_of_normal h
  have derives := derives_foldNegations writable
  rw [folded] at derives
  exact derives

end Tree

/-! ## 4. Queries -/

/-- The canonical text of an accepted query denotes the same tree wherever it is short enough. -/
theorem Query.denotes_render {limits : Limits} {text : String} {q : Query}
    (h : Query.parse limits text = .ok q) {maxLength : Nat}
    (fits : q.render.utf8ByteSize ≤ maxLength) :
    Denotes { limits with maxLength } q.render q.root := by
  obtain ⟨_, _, ⟨_, noop⟩ | body⟩ := query_eq_ok_iff.mp h
  · refine ⟨fits, .inl ⟨?_, noop⟩⟩
    unfold Query.render
    rw [noop]
    rfl
  · obtain ⟨normal, nested⟩ := Tree.normal_of_body body
    exact ⟨fits, .inr ((Tree.derives_of_normal normal).1 limits.maxDepth nested)⟩

/-- **Canonical texts read back**: the canonical text of a query that was read is read as the same
    tree, under the same nesting limit and any length limit that it fits. -/
theorem Query.parse_render_of_parse {limits : Limits} {text : String} {q : Query}
    (h : Query.parse limits text = .ok q) {maxLength : Nat}
    (fits : q.render.utf8ByteSize ≤ maxLength) :
    Query.parse { limits with maxLength } q.render = .ok { text := q.render, root := q.root } :=
  query_eq_ok_iff.mpr ⟨rfl, Query.denotes_render h fits⟩

/-- A kept `not`, a negated group, a longest symbol and a directive without values. -/
theorem Query.parse_render_of_parse_mixed :
    ∃ q, Query.parse {} "x.not.not==1&(!(b<==2;(c:asc)))" = .ok q ∧
      q.render = "x.not.not==1&!(b<==2;c:asc)" ∧
      Query.parse { maxDepth := 32, maxLength := 27 } q.render =
        .ok { text := q.render, root := q.root } := by
  have read : Query.parse {} "x.not.not==1&(!(b<==2;(c:asc)))" = .ok
      { text := "x.not.not==1&(!(b<==2;(c:asc)))"
        root := .binary .both
          (.leaf { path := ["x", "not"], operator := .exact, negated := true, values := ["1"] })
          (.not (.binary .either
            (.leaf { path := ["b"], operator := .lessOrEqual, values := ["=2"] })
            (.leaf { path := ["c"], directives := ["asc"] }))) } := by
    rfl
  exact ⟨_, read, by rfl, Query.parse_render_of_parse read (by decide)⟩

end FilterQuery
