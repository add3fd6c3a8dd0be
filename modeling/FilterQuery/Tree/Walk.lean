import FilterQuery.Tree

/-!
# Walking through a tree

A WALK visits the segments of a tree one at a time. It holds the subtrees still to be visited, the
next one first; `next?` opens subtrees until a segment shows.

`toList_of` is the main statement: a walk from the root yields exactly the leaves of the tree, from
left to right.
-/

namespace FilterQuery

/-- The subtrees still to be visited, the next one first. -/
structure Walk where
  pending : List Tree
  deriving DecidableEq, Repr

namespace Walk

/-! ## 1. Steps -/

/-- A walk that starts at the root of a tree. -/
def of (t : Tree) : Walk := ⟨[t]⟩

/-- The number of nodes still to be visited. -/
def work : List Tree → Nat
  | [] => 0
  | t :: rest => t.size + work rest

/-- The next segment and the walk behind it. -/
def step : List Tree → Option (Segment × List Tree)
  | [] => none
  | .noop :: rest => step rest
  | .leaf s :: rest => some (s, rest)
  | .binary _ l r :: rest => step (l :: r :: rest)
  | .not t :: rest => step (t :: rest)
termination_by pending => work pending
decreasing_by all_goals simp only [work, Tree.size]; omega

/-- The next segment and the walk behind it; nothing when the tree is exhausted. -/
def next? (w : Walk) : Option (Segment × Walk) :=
  (step w.pending).map (fun (s, rest) => (s, ⟨rest⟩))

/-- Every step leaves fewer nodes to visit. -/
theorem work_step {pending rest : List Tree} {s : Segment} (h : step pending = some (s, rest)) :
    work rest < work pending := by
  fun_induction step pending with
  | case1 => cases h
  | case2 _ ih => have := ih h; simp only [work, Tree.size]; omega
  | case3 => cases h; simp only [work, Tree.size]; omega
  | case4 _ l r _ ih => have := ih h; simp only [work, Tree.size] at this ⊢; omega
  | case5 t _ ih => have := ih h; simp only [work, Tree.size] at this ⊢; omega

/-! ## 2. All segments -/

/-- The segments that a list of pending subtrees yields. -/
def collect (pending : List Tree) : List Segment :=
  match _h : step pending with
  | none => []
  | some (s, rest) => s :: collect rest
termination_by work pending
decreasing_by exact work_step _h

/-- The segments that a walk still yields, in the order of its steps. -/
def toList (w : Walk) : List Segment :=
  collect w.pending

/-- A step takes the first of the leaves that are pending. -/
theorem leaves_step (pending : List Tree) :
    pending.flatMap Tree.leaves =
      match step pending with
      | none => []
      | some (s, rest) => s :: rest.flatMap Tree.leaves := by
  fun_induction step pending with
  | case1 => rfl
  | case2 rest ih => simpa [Tree.leaves] using ih
  | case3 s rest => simp [Tree.leaves]
  | case4 c l r rest ih => simpa [Tree.leaves] using ih
  | case5 t rest ih => simpa [Tree.leaves] using ih

/-- The segments that pending subtrees yield are their leaves. -/
theorem collect_eq (pending : List Tree) : collect pending = pending.flatMap Tree.leaves := by
  fun_induction collect pending with
  | case1 pending h => rw [leaves_step, h]
  | case2 pending s rest h ih => rw [leaves_step, h, ih]

/-- **A walk from the root yields the leaves of the tree**, each once, from left to right. -/
@[simp] theorem toList_of (t : Tree) : (of t).toList = t.leaves := by
  simp [toList, of, collect_eq]

end Walk

end FilterQuery
