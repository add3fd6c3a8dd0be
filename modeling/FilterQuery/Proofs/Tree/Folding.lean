import FilterQuery.Tree

/-!
# Folding negations

A negation has two places in a tree: the flag of a segment, and a node over an operand. Folding
moves negations to the first place wherever `negate` can.

* `absorbsNegation` -- the trees that take a negation in: `negate` puts a node around all others;
* `negate_negate_iff` -- so two negations cancel exactly where none stands over such a tree at the
  root. A tree that was built by hand may have one there, and loses it;
* `foldNegations` -- from the bottom up, every negation of a tree is folded into its operand;
* `foldNegations_negate` -- folding turns a negation into the negation of what it folds to, so that
  two negations always cancel up to folding;
* `Segment.affirmed` -- a segment without its flag. A property that does not read the flag is a
  property of the affirmed segment;
* `affirmedLeaves_negate`, `affirmedLeaves_foldNegations` -- folding turns over flags and does
  nothing else to the leaves: they stay in their places, with what they say;
* `forall_leaves_foldNegations` -- so what does not read the flag holds of the leaves of both trees.
-/

namespace FilterQuery

/-- A segment without its negation. -/
def Segment.affirmed (s : Segment) : Segment :=
  { s with negated := false }

namespace Tree

/-! ## 1. Two negations -/

/-- Whether a negation is taken into a tree instead of being put around it. -/
def absorbsNegation : Tree → Bool
  | .leaf _ => true
  | .not _ => true
  | _ => false

theorem negate_of_not_absorbs {t : Tree} (h : t.absorbsNegation = false) : t.negate = .not t := by
  cases t with
  | noop | binary => rfl
  | leaf | not => cases h

/-- **Two negations cancel** where no negation at the root stands over a tree that would have taken
    it in. -/
theorem negate_negate_of_root {t : Tree} (root : ∀ u, t = .not u → u.absorbsNegation = false) :
    t.negate.negate = t := by
  cases t with
  | noop | binary => rfl
  | leaf s => exact congrArg Tree.leaf s.negate_negate
  | not u => exact negate_of_not_absorbs (root u rfl)

/-- A tree that is its own opposite's opposite has nothing to take in at its root. -/
theorem root_of_negate_negate {t : Tree} (h : t.negate.negate = t) :
    ∀ u, t = .not u → u.absorbsNegation = false := by
  rintro u rfl
  cases u with
  | noop | binary => rfl
  | leaf s => cases h
  | not v =>
    -- the node that was put around is one too few
    have smaller : v.size = v.size + 2 := congrArg Tree.size h
    omega

/-! ## 2. Folding -/

/-- A tree whose negations are folded into their operands, from the bottom up. -/
def foldNegations : Tree → Tree
  | .noop => .noop
  | .leaf s => .leaf s
  | .binary connective l r => .binary connective l.foldNegations r.foldNegations
  | .not t => t.foldNegations.negate

/-- A folded tree has no negation over a tree that would take it in. -/
theorem root_foldNegations (t : Tree) :
    ∀ u, t.foldNegations = .not u → u.absorbsNegation = false := by
  induction t with
  | noop | leaf | binary => exact fun u h => by cases h
  | not t operand =>
    intro u h
    rw [foldNegations] at h
    cases folded : t.foldNegations with
    | noop | binary =>
      rw [folded] at h
      cases h
      rfl
    | leaf s =>
      rw [folded] at h
      cases h
    | not v =>
      -- two negations in a row are never left, so none is uncovered here
      rw [folded] at h
      have v_eq : v = .not u := h
      have absorbs := operand v folded
      rw [v_eq] at absorbs
      cases absorbs

theorem negate_negate_foldNegations (t : Tree) :
    t.foldNegations.negate.negate = t.foldNegations :=
  negate_negate_of_root (root_foldNegations t)

/-- **The opposite of a tree folds to the opposite** of what the tree folds to. -/
theorem foldNegations_negate (t : Tree) : t.negate.foldNegations = t.foldNegations.negate := by
  cases t with
  | noop | leaf | binary => rfl
  | not t => exact (negate_negate_foldNegations t).symm

/-- **Negating twice** gives back a tree exactly if no negation at its root stands over a segment or
    over another negation, and it never changes what the tree folds to. -/
theorem negate_negate_iff (t : Tree) :
    (t.negate.negate = t ↔ ∀ u, t = .not u → u.absorbsNegation = false) ∧
      t.negate.negate.foldNegations = t.foldNegations := by
  refine ⟨⟨root_of_negate_negate, negate_negate_of_root⟩, ?_⟩
  rw [foldNegations_negate, foldNegations_negate, negate_negate_foldNegations]

/-- The negation of a segment, as a node, comes back as the flag of the segment. -/
theorem negate_negate_lost : ¬ ∀ t : Tree, t.negate.negate = t := by
  intro cancels
  have same := cancels (.not (.leaf (.of ["a"] ["1"])))
  have lost : (Tree.not (.leaf (.of ["a"] ["1"]))).negate.negate ≠
      .not (.leaf (.of ["a"] ["1"])) := by
    decide
  exact lost same

/-! ## 3. Leaves -/

/-- The segments of a tree from left to right, without their negations. -/
def affirmedLeaves (t : Tree) : List Segment :=
  t.leaves.map Segment.affirmed

theorem affirmedLeaves_negate (t : Tree) : t.negate.affirmedLeaves = t.affirmedLeaves := by
  cases t <;> rfl

/-- A negation keeps the number of leaves. -/
theorem length_leaves_negate (t : Tree) : t.negate.leaves.length = t.leaves.length := by
  cases t with
  | noop | leaf | binary | not => rfl

/-- **Folding changes nothing of the leaves but their flags.** -/
theorem affirmedLeaves_foldNegations (t : Tree) :
    t.foldNegations.affirmedLeaves = t.affirmedLeaves := by
  induction t with
  | noop | leaf => rfl
  | binary connective l r left right =>
    unfold affirmedLeaves at *
    rw [foldNegations, leaves, leaves, List.map_append, List.map_append, left, right]
  | not t operand =>
    rw [foldNegations, affirmedLeaves_negate, operand]
    rfl

/-- What does not read the flag holds of all leaves of the folded tree if it holds of all leaves. -/
theorem forall_leaves_foldNegations {p : Segment → Prop} (blind : ∀ s, p s.affirmed ↔ p s)
    {t : Tree} (all : ∀ s ∈ t.leaves, p s) : ∀ s ∈ t.foldNegations.leaves, p s := by
  intro s mem
  have affirmed : s.affirmed ∈ t.affirmedLeaves := by
    rw [← affirmedLeaves_foldNegations]
    exact List.mem_map_of_mem mem
  obtain ⟨original, there, same⟩ := List.mem_map.mp affirmed
  rw [← blind, ← same, blind]
  exact all original there

end Tree

end FilterQuery
