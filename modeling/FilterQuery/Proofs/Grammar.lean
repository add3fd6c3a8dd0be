import FilterQuery.Tree.Reader

/-!
# The grammar of query texts

What a query text means, without a reader: a BODY is a list of operands joined by connectives, and an
operand is a clause, a group `(…)` or a negated group `!(…)`. Every derivation carries

* the number of groups that may still be opened inside it (`depth`);
* the characters that it covers;
* the tree that it builds: a body joins strictly from left to right, a group is the tree inside it,
  and a negated group is the opposite of that tree.

`Tree/Reader.lean` reads the same texts with one draft and one character at a time;
`Grammar/Completeness.lean` and `Grammar/Soundness.lean` compare the two.
-/

namespace FilterQuery.Grammar

/-! ## 1. Derivations -/

mutual

/-- A text of operands and the tree that they build. -/
inductive Body : Nat → List Char → Tree → Prop where
  | single {depth : Nat} {w : List Char} {t : Tree} (operand : Operand depth w t) :
      Body depth w t
  | join {depth : Nat} {w v : List Char} {t u : Tree} (body : Body depth w t)
      (connective : Connective) (operand : Operand depth v u) :
      Body depth (w ++ connective.mark :: v) (.binary connective t u)

/-- A text of one operand and its tree. -/
inductive Operand : Nat → List Char → Tree → Prop where
  | clause {depth : Nat} {w : List Char} {s : Segment} (some_char : w ≠ [])
      (ungrouped : ∀ c ∈ w, isGroupingMark c = false)
      (parsed : Segment.parse (String.ofList w) = .ok s) : Operand depth w (.leaf s)
  | group {depth : Nat} {w : List Char} {t : Tree} (body : Body depth w t) :
      Operand (depth + 1) ('(' :: w ++ [')']) t
  | negatedGroup {depth : Nat} {w : List Char} {t : Tree} (body : Body depth w t) :
      Operand (depth + 1) ('!' :: '(' :: w ++ [')']) t.negate

end

/-- What a text means under limits: it is short enough, and it is empty or derives as a body. -/
def Denotes (limits : Limits) (text : String) (t : Tree) : Prop :=
  text.utf8ByteSize ≤ limits.maxLength ∧
    (text = "" ∧ t = .noop ∨ Body limits.maxDepth text.toList t)

/-! ## 2. What a derivation covers -/

theorem isGroupingMark_connective (connective : Connective) :
    isGroupingMark connective.mark = true := by
  cases connective <;> rfl

/-! Every derivation covers some text. -/

theorem Operand.ne_nil {depth : Nat} {w : List Char} {t : Tree} (h : Operand depth w t) :
    w ≠ [] := by
  cases h with
  | clause some_char => exact some_char
  | group => exact List.cons_ne_nil _ _
  | negatedGroup => exact List.cons_ne_nil _ _

theorem Body.ne_nil {depth : Nat} {w : List Char} {t : Tree} (h : Body depth w t) : w ≠ [] := by
  cases h with
  | single operand => exact operand.ne_nil
  | join => simp

/-! ## 3. More room -/

mutual

theorem Operand.mono {depth room : Nat} {w : List Char} {t : Tree} (h : Operand depth w t)
    (fits : depth ≤ room) : Operand room w t := by
  match h with
  | .clause some_char ungrouped parsed => exact .clause some_char ungrouped parsed
  | .group body =>
    obtain ⟨room, rfl⟩ := Nat.exists_eq_add_of_le fits
    rw [Nat.add_right_comm]
    exact .group (body.mono (Nat.le_add_right _ _))
  | .negatedGroup body =>
    obtain ⟨room, rfl⟩ := Nat.exists_eq_add_of_le fits
    rw [Nat.add_right_comm]
    exact .negatedGroup (body.mono (Nat.le_add_right _ _))
termination_by structural h

/-- **What derives within some groups derives within more.** -/
theorem Body.mono {depth room : Nat} {w : List Char} {t : Tree} (h : Body depth w t)
    (fits : depth ≤ room) : Body room w t := by
  match h with
  | .single operand => exact .single (operand.mono fits)
  | .join body connective operand => exact .join (body.mono fits) connective (operand.mono fits)
termination_by structural h

end

end FilterQuery.Grammar
