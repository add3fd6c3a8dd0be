import FilterQuery.Proofs.Grammar.Acceptance
import FilterQuery.Proofs.Tree.Folding

/-!
# The clauses of a text and the leaves of its tree

The clauses of a text can be found without reading it: they are the longest runs of characters
between grouping marks, except for a `!` alone, which stands in front of a group (`clauseRuns`). A
query that is read has just these clauses for its leaves, each once, from left to right.

What groups do to a clause is that the negated ones turn it over, as long as they hold nothing
else. A `Place` shows a clause with all groups of this kind around it.

* `count_of_body` -- there are as many leaves as clauses, and one more than connectives;
* `placed_of_body` -- a leaf is what its clause says, turned over by the negated groups of its place;
* `Query.segments_of_parse` -- so the segments of a query are its clauses.
-/

namespace FilterQuery

open Grammar

/-! ## 1. Clauses of a text -/

/-- The longest runs of characters between grouping marks that are not a `!` alone. -/
def clauseRuns (text : List Char) : List (List Char) :=
  (text.splitOnP isGroupingMark).filter fun run => !run.isEmpty && run != ['!']

/-- The marks that join two operands. -/
def isConnectiveMark (c : Char) : Bool :=
  c == '&' || c == ';'

/-- **Clauses lie between marks**: a mark cuts a text in two, each with its own clauses. -/
theorem clauseRuns_append_mark {c : Char} (mark : isGroupingMark c = true) (w v : List Char) :
    clauseRuns (w ++ c :: v) = clauseRuns w ++ clauseRuns v := by
  unfold clauseRuns
  rw [List.splitOnP_append_cons w v mark, List.filter_append]

theorem clauseRuns_nil : clauseRuns [] = [] := rfl

/-- A text without marks that is read as a clause is its only clause. -/
theorem clauseRuns_clause {w : List Char} {s : Segment} (some_char : w ≠ [])
    (ungrouped : ∀ c ∈ w, isGroupingMark c = false)
    (parsed : Segment.parse (String.ofList w) = .ok s) : clauseRuns w = [w] := by
  have no_mark : w ≠ ['!'] := by
    rintro rfl
    cases parsed
  unfold clauseRuns
  rw [List.splitOnP_eq_singleton ungrouped]
  simp [some_char, no_mark]

/-- A text behind which other clauses begin. -/
def CutsBehind (w : List Char) : Prop :=
  ∀ v, clauseRuns (w ++ v) = clauseRuns w ++ clauseRuns v

/-- A text in front of which other clauses end. -/
def CutsBefore (w : List Char) : Prop :=
  ∀ v, clauseRuns (v ++ w) = clauseRuns v ++ clauseRuns w

theorem cutsBehind_nil : CutsBehind [] := fun _ => rfl

theorem cutsBefore_nil : CutsBefore [] := by
  intro v
  rw [List.append_nil, clauseRuns_nil, List.append_nil]

theorem cutsBehind_mark {c : Char} (mark : isGroupingMark c = true) (w : List Char) :
    CutsBehind (w ++ [c]) := by
  intro v
  rw [List.append_assoc, List.singleton_append, clauseRuns_append_mark mark,
    clauseRuns_append_mark mark, clauseRuns_nil, List.append_nil]

theorem cutsBefore_mark {c : Char} (mark : isGroupingMark c = true) (v : List Char) :
    CutsBefore (c :: v) := by
  intro w
  rw [clauseRuns_append_mark mark, ← List.nil_append (c :: v), clauseRuns_append_mark mark,
    clauseRuns_nil, List.nil_append]

/-- What opens a group is no clause. -/
theorem clauseRuns_opening (negated : Bool) : clauseRuns (opening negated) = [] := by
  cases negated <;> rfl

theorem cutsBehind_opening (negated : Bool) : CutsBehind (opening negated) := by
  cases negated with
  | false => exact @cutsBehind_mark '(' rfl []
  | true => exact @cutsBehind_mark '(' rfl ['!']

/-- A group has the clauses inside it. -/
theorem clauseRuns_group (negated : Bool) (w : List Char) :
    clauseRuns (opening negated ++ w ++ [')']) = clauseRuns w := by
  rw [clauseRuns_append_mark rfl, clauseRuns_nil, List.append_nil, cutsBehind_opening,
    clauseRuns_opening, List.nil_append]

theorem countP_group (negated : Bool) (w : List Char) :
    (opening negated ++ w ++ [')']).countP isConnectiveMark = w.countP isConnectiveMark := by
  rw [List.countP_append, List.countP_append]
  cases negated <;> exact Nat.zero_add _

theorem countP_ungrouped {w : List Char} (ungrouped : ∀ c ∈ w, isGroupingMark c = false) :
    w.countP isConnectiveMark = 0 := by
  rw [List.countP_eq_zero]
  intro c hc connective
  have plain := ungrouped c hc
  simp_all [isGroupingMark, isConnectiveMark]

theorem isConnectiveMark_mark (connective : Connective) :
    isConnectiveMark connective.mark = true := by
  cases connective <;> rfl

/-! ## 2. Numbers -/

mutual

theorem count_of_operand {depth : Nat} {w : List Char} {t : Tree} (h : Operand depth w t) :
    (clauseRuns w).length = t.leaves.length ∧
      t.leaves.length = w.countP isConnectiveMark + 1 := by
  match h with
  | .clause some_char ungrouped parsed =>
    rw [clauseRuns_clause some_char ungrouped parsed, countP_ungrouped ungrouped]
    exact ⟨rfl, rfl⟩
  | .group body =>
    have inside := count_of_body body
    rw [← clauseRuns_group false, ← countP_group false] at inside
    exact inside
  | .negatedGroup body =>
    have inside := count_of_body body
    rw [← clauseRuns_group true, ← countP_group true, ← Tree.length_leaves_negate] at inside
    exact inside
termination_by structural h

/-- **As many leaves as clauses, and one more than connectives.** -/
theorem count_of_body {depth : Nat} {w : List Char} {t : Tree} (h : Body depth w t) :
    (clauseRuns w).length = t.leaves.length ∧
      t.leaves.length = w.countP isConnectiveMark + 1 := by
  match h with
  | .single operand => exact count_of_operand operand
  | .join body connective operand =>
    obtain ⟨left_runs, left_count⟩ := count_of_body body
    obtain ⟨right_runs, right_count⟩ := count_of_operand operand
    rw [clauseRuns_append_mark (isGroupingMark_connective connective), List.length_append,
      Tree.leaves, List.length_append, List.countP_append,
      List.countP_cons_of_pos (isConnectiveMark_mark connective)]
    omega
termination_by structural h

end

/-! ## 3. Places -/

/-- A clause in a text with groups around it, the outermost one first and each with whether it is
    negated. -/
structure Place where
  before : List Char
  groups : List Bool
  clause : List Char
  after : List Char

namespace Place

/-- The whole text. -/
def text (p : Place) : List Char :=
  p.before ++ p.groups.flatMap opening ++ p.clause ++
    List.replicate p.groups.length ')' ++ p.after

/-- A segment turned over by every negated group. -/
def turn (p : Place) (s : Segment) : Segment :=
  { s with negated := p.groups.foldr Bool.xor s.negated }

/-- The groups and what is in them are the whole text. -/
def Whole (p : Place) : Prop :=
  p.before = [] ∧ p.after = []

/-- A connective stands directly beside the groups. -/
def Beside (p : Place) : Prop :=
  (∃ u, ∃ connective : Connective, p.before = u ++ [connective.mark]) ∨
    ∃ connective : Connective, ∃ v, p.after = connective.mark :: v

/-- No group further out holds only the clause: it would have to hold more, or there is none. -/
def Outermost (p : Place) : Prop :=
  p.Whole ∨ p.Beside

/-- The same groups in a longer text. -/
def within (p : Place) (left right : List Char) : Place :=
  { p with before := left ++ p.before, after := p.after ++ right }

/-- One more group around the others. -/
def enclose (p : Place) (negated : Bool) : Place :=
  { p with groups := negated :: p.groups }

theorem text_within (p : Place) (left right : List Char) :
    (p.within left right).text = left ++ p.text ++ right := by
  simp only [text, within, List.append_assoc]

theorem text_enclose {p : Place} (whole : p.Whole) (negated : Bool) :
    (p.enclose negated).text = opening negated ++ p.text ++ [')'] := by
  simp only [text, enclose, whole.1, whole.2, List.flatMap_cons, List.length_cons,
    List.replicate_succ', List.append_assoc, List.nil_append, List.append_nil]

theorem turn_enclose (p : Place) (negated : Bool) (s : Segment) :
    (p.enclose negated).turn s = if negated then (p.turn s).negate else p.turn s := by
  cases negated <;> simp [turn, enclose, Segment.negate]

theorem Beside.within {p : Place} (beside : p.Beside) (left right : List Char) :
    (p.within left right).Beside := by
  obtain ⟨u, connective, before⟩ | ⟨connective, v, after⟩ := beside
  · refine .inl ⟨left ++ u, connective, ?_⟩
    rw [Place.within, before, List.append_assoc]
  · refine .inr ⟨connective, v ++ right, ?_⟩
    rw [Place.within, after, List.cons_append]

/-- A connective behind a text is beside every place that was outermost in it. -/
theorem Outermost.beside_behind {p : Place} (outermost : p.Outermost) (connective : Connective)
    (v : List Char) : (p.within [] (connective.mark :: v)).Beside := by
  obtain whole | beside := outermost
  · refine .inr ⟨connective, v, ?_⟩
    exact congrArg (· ++ connective.mark :: v) whole.2
  · exact beside.within _ _

/-- A connective in front of a text is beside every place that was outermost in it. -/
theorem Outermost.beside_before {p : Place} (outermost : p.Outermost) (w : List Char)
    (connective : Connective) : (p.within (w ++ [connective.mark]) []).Beside := by
  obtain whole | beside := outermost
  · refine .inl ⟨w, connective, ?_⟩
    rw [Place.within, whole.1, List.append_nil]
  · exact beside.within _ _

end Place

/-- A segment is what the clause numbered `i` says at a place of a text. -/
structure Placed (w : List Char) (i : Nat) (p : Place) (leaf : Segment) : Prop where
  text : p.text = w
  index : (clauseRuns p.before).length = i
  run : (clauseRuns w)[i]? = some p.clause
  parsed : ∃ s, Segment.parse (String.ofList p.clause) = .ok s ∧ leaf = p.turn s

/-- **A place in a part of a text is a place in the text**, behind the clauses in front of it. -/
theorem Placed.within {w : List Char} {i : Nat} {p : Place} {leaf : Segment}
    (placed : Placed w i p leaf) {left right : List Char} (behind : CutsBehind left)
    (before : CutsBefore right) :
    Placed (left ++ w ++ right) ((clauseRuns left).length + i) (p.within left right) leaf where
  text := by rw [p.text_within, placed.text]
  index := by
    rw [← placed.index, Place.within, behind, List.length_append]
  run := by
    have inside : i < (clauseRuns w).length := (List.getElem?_eq_some_iff.mp placed.run).1
    rw [before, behind, List.append_assoc, List.getElem?_append_right (Nat.le_add_right _ _),
      Nat.add_sub_cancel_left, List.getElem?_append_left inside]
    exact placed.run
  parsed := placed.parsed

/-! ## 4. What the leaves say -/

/-- Every leaf of a tree is placed in the text of the tree. It is the whole tree, and its groups the
    whole text, or the tree has more leaves and a connective ends the groups. -/
def LeavesPlaced (w : List Char) (t : Tree) : Prop :=
  ∀ i leaf, t.leaves[i]? = some leaf → ∃ p, Placed w i p leaf ∧
    (p.Whole ∧ t = .leaf leaf ∨ p.Beside ∧ 1 < t.leaves.length)

/-- A negation does not reach the segments of a tree with several. -/
theorem Tree.leaves_negate_of_many {t : Tree} (many : 1 < t.leaves.length) :
    t.negate.leaves = t.leaves := by
  cases t with
  | leaf => exact absurd many (Nat.lt_irrefl 1)
  | noop | binary | not => rfl

theorem leavesPlaced_clause {w : List Char} {s : Segment} (some_char : w ≠ [])
    (ungrouped : ∀ c ∈ w, isGroupingMark c = false)
    (parsed : Segment.parse (String.ofList w) = .ok s) : LeavesPlaced w (.leaf s) := by
  intro i leaf there
  obtain ⟨rfl, rfl⟩ : i = 0 ∧ s = leaf := by
    cases i with
    | zero => exact ⟨rfl, Option.some.inj there⟩
    | succ => cases there
  refine ⟨⟨[], [], w, []⟩, ⟨?_, rfl, ?_, s, parsed, rfl⟩, .inl ⟨⟨rfl, rfl⟩, rfl⟩⟩
  · exact (List.append_nil _).trans (List.append_nil w)
  · rw [clauseRuns_clause some_char ungrouped parsed]
    rfl

/-- **A group around one clause** turns it over if it is negated; around several it is passed by. -/
theorem leavesPlaced_group {w : List Char} {t : Tree} (inside : LeavesPlaced w t)
    (negated : Bool) :
    LeavesPlaced (opening negated ++ w ++ [')']) (if negated then t.negate else t) := by
  have same_length : (if negated then t.negate else t).leaves.length = t.leaves.length := by
    cases negated with
    | false => rfl
    | true => exact t.length_leaves_negate
  intro i leaf there
  obtain ⟨i_lt, -⟩ := List.getElem?_eq_some_iff.mp there
  rw [same_length] at i_lt
  obtain ⟨inner, inner_there⟩ : ∃ inner, t.leaves[i]? = some inner :=
    ⟨_, List.getElem?_eq_getElem i_lt⟩
  obtain ⟨p, placed, ⟨whole, rfl⟩ | ⟨beside, many⟩⟩ := inside i inner inner_there
  · -- the group holds the clause and nothing else, so it joins the groups of the place
    obtain ⟨s, parsed, rfl⟩ := placed.parsed
    have turned : (if negated then (Tree.leaf (p.turn s)).negate else .leaf (p.turn s)) =
        .leaf ((p.enclose negated).turn s) := by
      rw [p.turn_enclose]
      cases negated <;> rfl
    rw [turned] at there ⊢
    obtain rfl : i = 0 := Nat.lt_one_iff.mp i_lt
    obtain rfl : (p.enclose negated).turn s = leaf := Option.some.inj there
    refine ⟨p.enclose negated, ⟨?_, placed.index, ?_, s, parsed, rfl⟩, .inl ⟨whole, rfl⟩⟩
    · rw [p.text_enclose whole, placed.text]
    · rw [clauseRuns_group]
      exact placed.run
  · -- a connective in the group keeps it away from the clause: it becomes a node, or nothing
    have same_leaves : (if negated then t.negate else t).leaves = t.leaves := by
      cases negated with
      | false => rfl
      | true => exact t.leaves_negate_of_many many
    rw [same_leaves, inner_there] at there
    obtain rfl : inner = leaf := Option.some.inj there
    have further := placed.within (cutsBehind_opening negated) (@cutsBefore_mark ')' rfl [])
    rw [clauseRuns_opening, List.length_nil, Nat.zero_add] at further
    refine ⟨_, further, .inr ⟨beside.within _ _, ?_⟩⟩
    rw [same_leaves]
    exact many

/-- **A connective** leaves the leaves of both sides where they are, and ends the groups that hold
    only one. -/
theorem leavesPlaced_join {w v : List Char} {t u : Tree} (left : LeavesPlaced w t)
    (right : LeavesPlaced v u) (connective : Connective)
    (left_leaves : (clauseRuns w).length = t.leaves.length) (some_left : 0 < t.leaves.length)
    (some_right : 0 < u.leaves.length) :
    LeavesPlaced (w ++ connective.mark :: v) (.binary connective t u) := by
  have mark := isGroupingMark_connective connective
  have many : 1 < (Tree.binary connective t u).leaves.length := by
    rw [Tree.leaves, List.length_append]
    omega
  intro i leaf there
  rw [Tree.leaves] at there
  by_cases first : i < t.leaves.length
  · rw [List.getElem?_append_left first] at there
    obtain ⟨p, placed, outermost⟩ := left i leaf there
    have outermost : p.Outermost := outermost.imp And.left And.left
    have longer := placed.within cutsBehind_nil (cutsBefore_mark mark v)
    rw [clauseRuns_nil, List.length_nil, Nat.zero_add, List.nil_append] at longer
    exact ⟨_, longer, .inr ⟨outermost.beside_behind connective v, many⟩⟩
  · have behind : t.leaves.length ≤ i := Nat.le_of_not_lt first
    rw [List.getElem?_append_right behind] at there
    obtain ⟨p, placed, outermost⟩ := right _ leaf there
    have outermost : p.Outermost := outermost.imp And.left And.left
    have longer := placed.within (cutsBehind_mark mark w) cutsBefore_nil
    rw [clauseRuns_append_mark mark, clauseRuns_nil, List.append_nil (clauseRuns w), left_leaves,
      Nat.add_sub_cancel' behind, List.append_nil, List.append_assoc,
      List.singleton_append] at longer
    exact ⟨_, longer, .inr ⟨outermost.beside_before w connective, many⟩⟩

mutual

theorem placed_of_operand {depth : Nat} {w : List Char} {t : Tree} (h : Operand depth w t) :
    LeavesPlaced w t := by
  match h with
  | .clause some_char ungrouped parsed => exact leavesPlaced_clause some_char ungrouped parsed
  | .group body => exact leavesPlaced_group (placed_of_body body) false
  | .negatedGroup body => exact leavesPlaced_group (placed_of_body body) true
termination_by structural h

/-- **Every leaf is placed**: it is what its clause says, turned over by the groups of the place. -/
theorem placed_of_body {depth : Nat} {w : List Char} {t : Tree} (h : Body depth w t) :
    LeavesPlaced w t := by
  match h with
  | .single operand => exact placed_of_operand operand
  | .join body connective operand =>
    obtain ⟨left_runs, left_count⟩ := count_of_body body
    obtain ⟨-, right_count⟩ := count_of_operand operand
    exact leavesPlaced_join (placed_of_body body) (placed_of_operand operand) connective left_runs
      (left_count ▸ Nat.succ_pos _) (right_count ▸ Nat.succ_pos _)
termination_by structural h

end

/-! ## 5. Queries -/

/-- **No clause is lost, repeated or moved**: the segments of a query are as many as the clauses of
    its text and one more than its connectives. Every clause is read for itself and is the segment
    with its number, turned over by the negated groups that hold nothing but the clause. -/
theorem Query.segments_of_parse {limits : Limits} {text : String} {q : Query}
    (read : Query.parse limits text = .ok q) (some_char : text ≠ "") :
    q.segments.length = (clauseRuns text.toList).length ∧
      q.segments.length = text.toList.countP isConnectiveMark + 1 ∧
      ∀ i run, (clauseRuns text.toList)[i]? = some run →
        ∃ (s : Segment) (place : Place), Segment.parse (String.ofList run) = .ok s ∧
          q.segments[i]? = some (place.turn s) ∧ place.text = text.toList ∧ place.clause = run ∧
          (clauseRuns place.before).length = i ∧ place.Outermost := by
  obtain ⟨-, -, ⟨empty, -⟩ | body⟩ := query_eq_ok_iff.mp read
  · exact absurd empty some_char
  have segments : q.segments = q.root.leaves := Walk.toList_of q.root
  obtain ⟨runs, connectives⟩ := count_of_body body
  rw [segments]
  refine ⟨runs.symm, connectives, fun i run there => ?_⟩
  obtain ⟨i_lt, -⟩ := List.getElem?_eq_some_iff.mp there
  rw [runs] at i_lt
  obtain ⟨leaf, leaf_there⟩ : ∃ leaf, q.root.leaves[i]? = some leaf :=
    ⟨_, List.getElem?_eq_getElem i_lt⟩
  obtain ⟨place, placed, outermost⟩ := placed_of_body body i leaf leaf_there
  obtain ⟨s, parsed, rfl⟩ := placed.parsed
  obtain rfl : place.clause = run := Option.some.inj (placed.run.symm.trans there)
  exact ⟨s, place, parsed, leaf_there, placed.text, rfl, placed.index,
    outermost.imp And.left And.left⟩

/-- Three clauses: one alone in a negated group, one beside it, and one in two negated groups. -/
theorem Query.segments_of_parse_three :
    ∃ (q : Query) (s : Segment) (place : Place),
      Query.parse { maxDepth := 2, maxLength := 23 } "!(!(a)&b);!(!(c.not=1))" = .ok q ∧
        q.segments.length = 3 ∧ Segment.parse "c.not=1" = .ok s ∧
        q.segments[2]? = some (place.turn s) ∧
        place.text = "!(!(a)&b);!(!(c.not=1))".toList ∧ place.clause = "c.not=1".toList ∧
        (clauseRuns place.before).length = 2 ∧ place.Outermost := by
  obtain ⟨q, read⟩ : ∃ q, Query.parse { maxDepth := 2, maxLength := 23 }
      "!(!(a)&b);!(!(c.not=1))" = .ok q := ⟨_, rfl⟩
  obtain ⟨-, connectives, clauses⟩ := segments_of_parse read (by decide)
  obtain ⟨s, place, parsed, there, whole⟩ := clauses 2 "c.not=1".toList (by decide)
  refine ⟨q, s, place, read, ?_, ?_, there, whole⟩
  · rw [connectives]
    decide
  · rw [← parsed, String.ofList_toList]

end FilterQuery
