import FilterQuery.Tree.Walk

/-!
# A walk is the recursive traversal

The recursion of `Tree.leaves` keeps its place in its own calls, a walk in a stack of subtrees. Any
subtrees may be pending in between, so what holds of a walk is said of all stacks.

* `Tree.own?`, `Tree.operands` -- what opening a node gives, and what it leaves in its place;
* `Turns` -- turns of the loop, counted: every turn takes a subtree off the stack and opens it;
* `Turns.leaves_eq`, `Turns.work_eq` -- no turn loses, repeats or moves a leaf, and every turn takes
  one node away;
* `turns_to_segment`, `step_eq_some_iff`, `step_eq_none_iff` -- the loop ends, and a step is its
  turns up to the next segment or up to an empty stack;
* `call`, `after`, `answer` -- calls one after another, those that find no segment included;
* `Traverses`, `traverses` -- the calls of a walk answer its segments in their order, each once, and
  then nothing; together they open every node once.
-/

namespace FilterQuery

/-! ## 1. Opening a node -/

namespace Tree

/-- The segment that a node gives when it is opened. -/
def own? : Tree → Option Segment
  | .leaf s => some s
  | _ => none

/-- The subtrees that an opened node leaves in its place, from left to right. -/
def operands : Tree → List Tree
  | .binary _ l r => [l, r]
  | .not t => [t]
  | _ => []

/-- The leaves of a node are its own segment or those of its operands. -/
theorem leaves_eq_opened (t : Tree) : t.leaves = t.own?.toList ++ t.operands.flatMap leaves := by
  cases t with
  | noop | leaf => rfl
  | binary connective l r =>
    rw [operands, List.flatMap_cons, List.flatMap_singleton]
    rfl
  | not t =>
    rw [operands, List.flatMap_singleton]
    rfl

/-- A node is one more than its operands. -/
theorem size_eq_opened (t : Tree) : t.size = Walk.work t.operands + 1 := by
  cases t with
  | noop | leaf | binary | not => rfl

end Tree

namespace Walk

theorem work_append (pending more : List Tree) :
    work (pending ++ more) = work pending + work more := by
  induction pending with
  | nil => exact (Nat.zero_add _).symm
  | cons t rest ih => rw [List.cons_append, work, work, ih, Nat.add_assoc]

/-! ## 2. Turns of the loop -/

/-- Turns of the loop, counted, from one stack to another, and the segments that they give. Every
    turn opens the subtree on top. -/
inductive Turns : Nat → List Tree → List Segment → List Tree → Prop
  | stay (pending : List Tree) : Turns 0 pending [] pending
  | turn {n : Nat} {t : Tree} {rest last : List Tree} {ss : List Segment}
      (more : Turns n (t.operands ++ rest) ss last) :
      Turns (n + 1) (t :: rest) (t.own?.toList ++ ss) last

namespace Turns

variable {n m : Nat} {pending middle last : List Tree} {ss more : List Segment}

theorem append (first : Turns n pending ss middle) (second : Turns m middle more last) :
    Turns (n + m) pending (ss ++ more) last := by
  induction first with
  | stay =>
    rw [Nat.zero_add]
    exact second
  | turn _ ih =>
    rw [Nat.succ_add, List.append_assoc]
    exact (ih second).turn

/-- **No leaf is lost, repeated or moved**: the segments that are given and the leaves that are
    pending are together the leaves that were pending. -/
theorem leaves_eq (turns : Turns n pending ss last) :
    pending.flatMap Tree.leaves = ss ++ last.flatMap Tree.leaves := by
  induction turns with
  | stay => rfl
  | @turn n t rest last ss _ ih =>
    calc (t :: rest).flatMap Tree.leaves
        = t.own?.toList ++ (t.operands ++ rest).flatMap Tree.leaves := by
          rw [List.flatMap_cons, t.leaves_eq_opened, List.append_assoc, List.flatMap_append]
      _ = t.own?.toList ++ ss ++ last.flatMap Tree.leaves := by rw [ih, List.append_assoc]

/-- **Every turn takes one node away.** -/
theorem work_eq (turns : Turns n pending ss last) : n + work last = work pending := by
  induction turns with
  | stay => exact Nat.zero_add _
  | @turn n t rest last ss _ ih =>
    rw [work_append] at ih
    rw [work, t.size_eq_opened]
    omega

end Turns

/-! ## 3. A step -/

/-- A node without a segment of its own makes way for its operands. -/
theorem Turns.silent {n : Nat} {t : Tree} {rest last : List Tree} {ss : List Segment}
    (no_own : t.own? = none) (more : Turns n (t.operands ++ rest) ss last) :
    Turns (n + 1) (t :: rest) ss last := by
  have turns := more.turn
  rw [no_own] at turns
  exact turns

theorem step_silent {t : Tree} (no_own : t.own? = none) (rest : List Tree) :
    step (t :: rest) = step (t.operands ++ rest) := by
  cases t with
  | leaf => cases no_own
  | noop | binary | not =>
    rw [step]
    rfl

/-- Turns that give nothing do not change what the next step is. -/
theorem step_of_turns {n : Nat} {pending last : List Tree} (turns : Turns n pending [] last) :
    step pending = step last := by
  generalize nothing : ([] : List Segment) = ss at turns
  induction turns with
  | stay => rfl
  | turn _ ih =>
    obtain ⟨no_own, nothing⟩ := List.append_eq_nil_iff.mp nothing.symm
    rw [step_silent (Option.toList_eq_nil_iff.mp no_own), ih nothing.symm]

/-- **The loop ends**: turns that give nothing come to a segment on top, or to an empty stack. -/
theorem turns_to_segment (pending : List Tree) : ∃ n last, Turns n pending [] last ∧
    (last = [] ∨ ∃ s rest, last = .leaf s :: rest) := by
  fun_induction step pending with
  | case1 => exact ⟨0, [], .stay _, .inl rfl⟩
  | case3 s rest => exact ⟨0, _, .stay _, .inr ⟨s, rest, rfl⟩⟩
  | case2 _ ih | case4 _ _ _ _ ih | case5 _ _ ih =>
    obtain ⟨n, last, turns, stopped⟩ := ih
    exact ⟨n + 1, last, turns.silent rfl, stopped⟩

/-- **A step stops at the first segment** that the turns of the loop bring to the top. -/
theorem step_eq_some_iff {pending rest : List Tree} {s : Segment} :
    step pending = some (s, rest) ↔ ∃ n, Turns n pending [] (.leaf s :: rest) := by
  constructor
  · intro h
    obtain ⟨n, last, turns, rfl | ⟨_, _, rfl⟩⟩ := turns_to_segment pending
    all_goals
      rw [step_of_turns turns, step] at h
      cases h
    exact ⟨n, turns⟩
  · rintro ⟨n, turns⟩
    rw [step_of_turns turns, step]

/-- **A step finds nothing** exactly if the turns of the loop empty the stack without a segment. -/
theorem step_eq_none_iff {pending : List Tree} :
    step pending = none ↔ ∃ n, Turns n pending [] [] := by
  constructor
  · intro h
    obtain ⟨n, last, turns, rfl | ⟨_, _, rfl⟩⟩ := turns_to_segment pending
    · exact ⟨n, turns⟩
    · rw [step_of_turns turns, step] at h
      cases h
  · rintro ⟨n, turns⟩
    rw [step_of_turns turns, step]

/-! ## 4. Calls -/

/-- One call: its answer, and the walk behind it. A call without an answer has emptied the stack. -/
def call (w : Walk) : Option Segment × Walk :=
  match w.next? with
  | none => (none, ⟨[]⟩)
  | some (s, behind) => (some s, behind)

/-- The walk behind so many calls. -/
def after (w : Walk) : Nat → Walk
  | 0 => w
  | k + 1 => (w.after k).call.2

/-- The answer of the call with a number, the first one having the number 0. -/
def answer (w : Walk) (k : Nat) : Option Segment :=
  (w.after k).call.1

/-- The turns of a call. -/
theorem turns_call (w : Walk) : ∃ n, Turns n w.pending w.call.1.toList w.call.2.pending := by
  unfold call next?
  cases found : step w.pending with
  | none => exact step_eq_none_iff.mp found
  | some next =>
    obtain ⟨s, rest⟩ := next
    obtain ⟨n, turns⟩ := step_eq_some_iff.mp found
    exact ⟨n + 1, turns.append (Turns.stay rest).turn⟩

theorem call_of_none {w : Walk} (nothing : w.call.1 = none) : w.call.2.pending = [] := by
  unfold call at nothing ⊢
  split at nothing
  · rfl
  · cases nothing

/-- A call takes the first of the segments that a walk still yields. -/
theorem toList_call (w : Walk) : w.toList = w.call.1.toList ++ w.call.2.toList := by
  obtain ⟨n, turns⟩ := w.turns_call
  rw [toList, toList, collect_eq, collect_eq]
  exact turns.leaves_eq

theorem call_fst (w : Walk) : w.call.1 = w.toList.head? := by
  have parted := w.toList_call
  cases answered : w.call.1 with
  | none =>
    have exhausted : w.call.2.toList = [] := by
      rw [toList, call_of_none answered, collect_eq]
      rfl
    rw [parted, answered, exhausted]
    rfl
  | some s =>
    rw [parted, answered]
    rfl

theorem call_snd (w : Walk) : w.call.2.toList = w.toList.tail := by
  have answered := w.call_fst
  have parted := w.toList_call
  cases yields : w.toList with
  | nil =>
    rw [yields] at parted
    exact (List.append_eq_nil_iff.mp parted.symm).2
  | cons s ss =>
    rw [answered, yields] at parted
    exact (List.cons.inj parted).2.symm

theorem toList_after (w : Walk) (k : Nat) : (w.after k).toList = w.toList.drop k := by
  induction k with
  | zero => rfl
  | succ k ih => rw [after, call_snd, ih, List.tail_drop]

/-- **The calls answer the segments of the walk**, and nothing behind the last of them. -/
theorem answer_eq (w : Walk) (k : Nat) : w.answer k = w.toList[k]? := by
  rw [answer, call_fst, toList_after, List.head?_drop]

/-- The turns of the first calls give the first segments. -/
theorem turns_after (w : Walk) (k : Nat) :
    ∃ n, Turns n w.pending (w.toList.take k) (w.after k).pending := by
  induction k with
  | zero => exact ⟨0, .stay _⟩
  | succ k ih =>
    obtain ⟨n, turns⟩ := ih
    obtain ⟨m, further⟩ := (w.after k).turns_call
    have answered : (w.after k).call.1 = w.toList[k]? := w.answer_eq k
    rw [answered] at further
    rw [List.take_add_one]
    exact ⟨n + m, turns.append further⟩

/-! ## 5. The traversal -/

/-- A walk traverses a list of segments. -/
structure Traverses (w : Walk) (ss : List Segment) : Prop where
  /-- The call with a number answers the segment with that number, and nothing if there is none. -/
  answer : ∀ k, w.answer k = ss[k]?
  /-- The loops of the first `k` calls have given the first `k` segments in finitely many turns, one
      for each node that is no longer pending. -/
  turns : ∀ k, ∃ n, n + work (w.after k).pending = work w.pending ∧
    Turns n w.pending (ss.take k) (w.after k).pending
  /-- The first call without an answer leaves nothing pending. -/
  spent : (w.after (ss.length + 1)).pending = []

/-- **A walk traverses the segments that it yields**, whatever is pending. -/
theorem traverses (w : Walk) : w.Traverses w.toList where
  answer := w.answer_eq
  turns k := by
    obtain ⟨n, turns⟩ := w.turns_after k
    exact ⟨n, turns.work_eq, turns⟩
  spent := by
    refine call_of_none (w := w.after w.toList.length) ?_
    rw [call_fst, toList_after, List.drop_length]
    rfl

/-- A walk from the root of a tree traverses its leaves. -/
theorem traverses_of (t : Tree) : (of t).Traverses t.leaves := by
  have traversed := (of t).traverses
  rw [toList_of] at traversed
  exact traversed

example :
    (List.range 4).map (of (.binary .both (.leaf (.of ["a"] ["1"]))
      (.not (.binary .either .noop (.leaf (.of ["b"] ["2"])))))).answer =
        [some (.of ["a"] ["1"]), some (.of ["b"] ["2"]), none, none] := by cbv

end Walk

end FilterQuery
