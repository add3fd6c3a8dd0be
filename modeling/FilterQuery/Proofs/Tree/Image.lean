import FilterQuery.Proofs.Clause.Domain
import FilterQuery.Proofs.Tree.RoundTrip

/-!
# Which trees a text can say

The reader answers with the query without clauses for the empty text, and otherwise with a tree
that is EXPRESSIBLE:

* no query without clauses stands inside it;
* only two joined operands are negated as a group, since every other negation is folded away;
* its names hold no mark of the language, its values no `,` and no mark of a group, and a first
  value starts with `=` only behind a symbol that can be followed by one.

Every expressible tree is read from its canonical text, so there are no other trees and no further
conditions (`read_iff_expressible`). The conditions are stated mark by mark; `expressible_iff` ties
them to what the reader of clauses guarantees.
-/

namespace FilterQuery

/-! ## 1. Leaves -/

/-- The marks that join and group clauses. -/
def groupMarks : List Char := ['&', ';', '(', ')']

theorem mem_groupMarks_iff (c : Char) : c ∈ groupMarks ↔ isGroupingMark c = true := by
  simp only [groupMarks, isGroupingMark, List.mem_cons, List.not_mem_nil, Bool.or_eq_true,
    beq_iff_eq, or_assoc, or_false]

namespace Segment

/-- A segment that stands in some query text. -/
def Expressible (s : Segment) : Prop :=
  s.FreeOf groupMarks

/-- **Expressible segments are those that clauses say**, with no mark of a group in them. -/
theorem expressible_iff (s : Segment) : s.Expressible ↔ s.Readable ∧ s.Ungrouped := by
  rw [Expressible, freeOf_iff]
  refine and_congr_right fun _ => ⟨fun free c given_char => ?_, fun ungrouped w hw mark => ?_⟩
  · obtain ⟨w, hw, hc⟩ := given_char
    rw [← Bool.not_eq_true, ← mem_groupMarks_iff]
    exact fun is_mark => free w hw c is_mark hc
  · rw [mem_groupMarks_iff]
    intro grouping inside
    rw [ungrouped mark ⟨w, hw, inside⟩] at grouping
    cases grouping

end Segment

/-! ## 2. Trees -/

namespace Tree

/-- All subtrees of a tree, the tree itself first. -/
def subtrees : Tree → List Tree
  | .noop => [.noop]
  | .leaf s => [.leaf s]
  | .binary connective l r => .binary connective l r :: (l.subtrees ++ r.subtrees)
  | .not t => .not t :: t.subtrees

/-- A tree that some text with clauses says. -/
structure Expressible (t : Tree) : Prop where
  no_noop : .noop ∉ t.subtrees
  negated_binary : ∀ u, .not u ∈ t.subtrees → u.isBinary = true
  leaves : ∀ s ∈ t.leaves, s.Expressible

/-- Two joined operands are expressible when both are. -/
theorem expressible_binary (connective : Connective) (l r : Tree) :
    (Tree.binary connective l r).Expressible ↔ l.Expressible ∧ r.Expressible := by
  constructor
  · intro given
    obtain ⟨no_noop, negated_binary, leaves⟩ := given
    simp only [subtrees, Tree.leaves, List.mem_cons, List.mem_append, reduceCtorEq, false_or]
      at no_noop negated_binary leaves
    exact ⟨⟨fun h => no_noop (.inl h), fun u h => negated_binary u (.inl h),
        fun s h => leaves s (.inl h)⟩,
      ⟨fun h => no_noop (.inr h), fun u h => negated_binary u (.inr h),
        fun s h => leaves s (.inr h)⟩⟩
  · intro given
    obtain ⟨left, right⟩ := given
    constructor
    · simp only [subtrees, List.mem_cons, List.mem_append, reduceCtorEq, false_or, not_or]
      exact ⟨left.no_noop, right.no_noop⟩
    · intro u h
      simp only [subtrees, List.mem_cons, List.mem_append, reduceCtorEq, false_or] at h
      rcases h with h | h
      · exact left.negated_binary u h
      · exact right.negated_binary u h
    · exact List.forall_mem_append.mpr ⟨left.leaves, right.leaves⟩

/-- A negated group is expressible when two joined operands are negated. -/
theorem expressible_not (t : Tree) :
    (Tree.not t).Expressible ↔ t.isBinary = true ∧ t.Expressible := by
  constructor
  · intro given
    obtain ⟨no_noop, negated_binary, leaves⟩ := given
    exact ⟨negated_binary t List.mem_cons_self, fun h => no_noop (List.mem_cons_of_mem _ h),
      fun u h => negated_binary u (List.mem_cons_of_mem _ h), leaves⟩
  · intro given
    obtain ⟨joined, no_noop, negated_binary, leaves⟩ := given
    constructor
    · simp only [subtrees, List.mem_cons, reduceCtorEq, false_or]
      exact no_noop
    · intro u h
      rcases List.mem_cons.mp h with same | h
      · cases same
        exact joined
      · exact negated_binary u h
    · exact leaves

/-- **The expressible trees are the normal ones.** -/
theorem normal_iff_expressible (t : Tree) : t.Normal ↔ t.Expressible := by
  induction t with
  | noop => exact ⟨False.elim, fun given => given.no_noop List.mem_cons_self⟩
  | leaf s =>
    rw [Normal, ← Segment.expressible_iff]
    constructor
    · intro expressible
      exact ⟨by simp [subtrees], by simp [subtrees], List.forall_mem_singleton.mpr expressible⟩
    · intro given
      exact given.leaves s List.mem_cons_self
  | binary connective l r left right => rw [Normal, expressible_binary, left, right]
  | not t operand => rw [Normal, expressible_not, operand]

/-- A tree is read from some text exactly when it is normal or says nothing. -/
theorem exists_denotes_iff (t : Tree) :
    (∃ limits text, Grammar.Denotes limits text t) ↔ t = .noop ∨ t.Normal := by
  constructor
  · intro given
    obtain ⟨limits, text, _, ⟨_, rfl⟩ | body⟩ := given
    · exact .inl rfl
    · exact .inr (normal_of_body body).1
  · intro given
    rcases given with rfl | normal
    · exact ⟨{}, "", Nat.zero_le _, .inl ⟨rfl, rfl⟩⟩
    · exact ⟨{ maxDepth := t.nesting, maxLength := t.render.utf8ByteSize }, t.render,
        Nat.le_refl _, .inr ((derives_of_normal normal).1 _ (Nat.le_refl _))⟩

/-- Only the empty text says the query without clauses. -/
theorem denotes_noop_iff (limits : Limits) (text : String) :
    Grammar.Denotes limits text .noop ↔ text = "" := by
  constructor
  · intro given
    obtain ⟨_, ⟨empty, _⟩ | body⟩ := given
    · exact empty
    · exact (normal_of_body body).1.elim
  · intro empty
    subst empty
    exact ⟨Nat.zero_le _, .inl ⟨rfl, rfl⟩⟩

end Tree

/-! ## 3. The image of the reader -/

/-- **What can be said**: a tree is read from some text, under some limits, exactly when it is the
    query without clauses or expressible; and the query without clauses is read from the empty text
    alone, under any limits. -/
theorem Query.read_iff_expressible (t : Tree) :
    ((∃ limits text q, Query.parse limits text = .ok q ∧ q.root = t) ↔
      t = .noop ∨ t.Expressible) ∧
    ∀ limits text, (∃ q, Query.parse limits text = .ok q ∧ q.root = .noop) ↔ text = "" := by
  constructor
  · simp only [Grammar.exists_query_iff, ← Tree.normal_iff_expressible]
    exact Tree.exists_denotes_iff t
  · intro limits text
    rw [Grammar.exists_query_iff]
    exact Tree.denotes_noop_iff limits text

end FilterQuery
