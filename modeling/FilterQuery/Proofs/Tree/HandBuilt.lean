import FilterQuery.Proofs.Tree.Image

/-!
# Trees that were built by hand

A program may build a tree that no text says: the reader folds negations away, and a tree that was
built by hand, or read from another form, may hold them anywhere. Its canonical text still reads
back, and what changes on the way is its negations alone.

* `writable_iff` -- what the leaves have to meet for the tree to have a canonical text that is read;
* `Folded`, `foldNegations_eq_self_iff` -- the trees without a negation to fold, which are those that
  folding leaves as they are;
* `Query.parse_render_foldNegations` -- the canonical text of a tree is read as the tree with its
  negations folded, so as the tree itself exactly if it is folded.
-/

namespace FilterQuery

namespace Tree

/-! ## 1. Leaves -/

/-- **A tree can be written** if it has clauses everywhere and they can all be written. -/
theorem writable_iff (t : Tree) :
    t.Writable ↔ .noop ∉ t.subtrees ∧ ∀ s ∈ t.leaves, s.Readable ∧ s.Ungrouped := by
  induction t with
  | noop => simp [Writable, subtrees]
  | leaf s => simp [Writable, subtrees, leaves]
  | binary connective l r left right =>
    rw [Writable, left, right, leaves, List.forall_mem_append, subtrees]
    simp only [List.mem_cons, List.mem_append, reduceCtorEq, false_or, not_or]
    exact and_and_and_comm
  | not t operand =>
    rw [Writable, operand, leaves, subtrees]
    simp only [List.mem_cons, reduceCtorEq, false_or]

/-! ## 2. Folded trees -/

/-- No negation of a tree stands over a segment or over another negation. -/
def Folded (t : Tree) : Prop :=
  ∀ u, .not u ∈ t.subtrees → u.absorbsNegation = false

theorem folded_binary (connective : Connective) (l r : Tree) :
    (Tree.binary connective l r).Folded ↔ l.Folded ∧ r.Folded := by
  simp only [Folded, subtrees, List.mem_cons, List.mem_append, reduceCtorEq, false_or, or_imp,
    forall_and]

theorem folded_not (t : Tree) :
    (Tree.not t).Folded ↔ t.absorbsNegation = false ∧ t.Folded := by
  simp only [Folded, subtrees, List.mem_cons, Tree.not.injEq, or_imp, forall_and, forall_eq]

/-- **The trees that folding leaves as they are** have no negation to fold. -/
theorem foldNegations_eq_self_iff (t : Tree) : t.foldNegations = t ↔ t.Folded := by
  induction t with
  | noop | leaf => simp [foldNegations, Folded, subtrees]
  | binary connective l r left right =>
    rw [folded_binary, ← left, ← right, foldNegations, Tree.binary.injEq]
    exact and_iff_right rfl
  | not t operand =>
    rw [folded_not, ← operand]
    constructor
    · intro kept
      refine ⟨root_foldNegations (.not t) t kept, ?_⟩
      calc t.foldNegations
        _ = t.foldNegations.negate.negate := (negate_negate_foldNegations t).symm
        _ = (Tree.not t).negate := congrArg negate kept
        _ = t := rfl
    · intro given
      obtain ⟨plain, folded⟩ := given
      rw [foldNegations, folded]
      exact negate_of_not_absorbs plain

end Tree

/-! ## 3. Canonical texts -/

/-- **The canonical text of a tree built by hand** is read, under all limits that it fits, as the
    tree with its negations folded. It is read as the tree itself exactly if no negation stands over
    a segment or over another negation. -/
theorem Query.parse_render_foldNegations {t : Tree} (no_noop : .noop ∉ t.subtrees)
    (read_back : ∀ s ∈ t.leaves, Segment.parse s.render = .ok s)
    (ungrouped : ∀ s ∈ t.leaves, s.Ungrouped) {limits : Limits} (deep : t.nesting ≤ limits.maxDepth)
    (long : t.render.utf8ByteSize ≤ limits.maxLength) :
    ∃ q, Query.parse limits t.render = .ok q ∧ q.root = t.foldNegations ∧
      (q.root = t ↔ t.Folded) := by
  have writable : t.Writable := t.writable_iff.mpr ⟨no_noop, fun s mem =>
    ⟨Segment.readable_of_read (Segment.parse_eq_ok_iff.mp (read_back s mem)), ungrouped s mem⟩⟩
  have body := (Tree.derives_foldNegations writable).1 limits.maxDepth deep
  obtain ⟨q, read, root⟩ := Grammar.exists_query_iff.mpr ⟨long, .inr body⟩
  refine ⟨q, read, root, ?_⟩
  rw [root]
  exact t.foldNegations_eq_self_iff

/-- Two negations in a row over joined operands, and one over a segment on the right. -/
theorem Query.parse_render_foldNegations_three :
    ∃ q, Query.parse { maxDepth := 3, maxLength := 23 } "!(!(!b.not.not=!;!(c)))" = .ok q ∧
      q.root = .binary .either (.leaf { path := ["b", "not"], values := ["!"] })
        (.leaf { path := ["c"], negated := true }) ∧
      q.root ≠ .not (.not (.binary .either (.leaf { path := ["b", "not"], values := ["!"] })
        (.not (.leaf { path := ["c"] })))) := by
  have plain : ∀ s : Segment, Segment.parse s.render = .ok s →
      s.render.toList.all (fun c => !isGroupingMark c) = true → s.Ungrouped :=
    fun s read all c inside => Segment.ungrouped_of_all all c
      (Segment.mem_text_of_read (Segment.parse_eq_ok_iff.mp read) inside)
  have written : ∀ s ∈ ([{ path := ["b", "not"], values := ["!"] }, { path := ["c"] }] :
      List Segment), Segment.parse s.render = .ok s ∧ s.Ungrouped :=
    List.forall_mem_cons.mpr ⟨⟨by rfl, plain _ (by rfl) (by rfl)⟩,
      List.forall_mem_singleton.mpr ⟨by rfl, plain _ (by rfl) (by rfl)⟩⟩
  obtain ⟨q, read, root, same⟩ := @parse_render_foldNegations
    (.not (.not (.binary .either (.leaf { path := ["b", "not"], values := ["!"] })
      (.not (.leaf { path := ["c"] })))))
    (by decide) (fun s mem => (written s mem).1) (fun s mem => (written s mem).2)
    { maxDepth := 3, maxLength := 23 } (by decide) (by decide)
  refine ⟨q, read, root, fun unchanged => ?_⟩
  exact absurd (same.mp unchanged _ List.mem_cons_self) (by decide)

end FilterQuery
