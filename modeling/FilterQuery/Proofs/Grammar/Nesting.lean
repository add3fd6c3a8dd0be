import FilterQuery.Proofs.Grammar.Soundness

/-!
# How deep a text nests

The depth of a derivation bounds the groups that may be opened in it. How many are open at once can
be seen in the text alone, by counting its parentheses (`parenDepth`), and both are the same: a text
that derives at all derives within exactly the depths from its parentheses on
(`body_iff_parenDepth_le`).

A text that derives closes every group that it opens, so it may stand in a longer text and adds its
own depth to the level that it stands at (`Nests`).
-/

namespace FilterQuery

/-! ## 1. Counting parentheses -/

/-- The number of open groups behind a character. -/
def levelAfter (level : Nat) (c : Char) : Nat :=
  if c = '(' then level + 1 else if c = ')' then level - 1 else level

/-- The most groups that are open at once in a text in front of which `level` are open. -/
def deepestFrom (level : Nat) : List Char → Nat
  | [] => level
  | c :: rest => max level (deepestFrom (levelAfter level c) rest)

/-- How deep the parentheses of a text are nested. -/
def parenDepth (text : List Char) : Nat :=
  deepestFrom 0 text

example : parenDepth "(a;(b))&!((c)&d)".toList = 2 := by decide

theorem level_le_deepestFrom (level : Nat) (w : List Char) : level ≤ deepestFrom level w := by
  cases w with
  | nil => exact Nat.le_refl level
  | cons c w => exact Nat.le_max_left _ _

/-- A character that groups nothing leaves the level as it is. -/
theorem deepestFrom_cons {c : Char} (not_open : c ≠ '(') (not_close : c ≠ ')') (level : Nat)
    (w : List Char) : deepestFrom level (c :: w) = deepestFrom level w := by
  rw [deepestFrom, levelAfter, if_neg not_open, if_neg not_close]
  exact Nat.max_eq_right (level_le_deepestFrom level w)

/-- A text that closes what it opens, `depth` groups at most being open in it at once. -/
def Nests (w : List Char) (depth : Nat) : Prop :=
  ∀ level rest, deepestFrom level (w ++ rest) = max (level + depth) (deepestFrom level rest)

theorem Nests.parenDepth_eq {w : List Char} {depth : Nat} (h : Nests w depth) :
    parenDepth w = depth := by
  have alone := h 0 []
  rw [List.append_nil, Nat.zero_add] at alone
  exact alone.trans (Nat.max_eq_left (Nat.zero_le depth))

theorem nests_ungrouped : ∀ {w : List Char}, (∀ c ∈ w, isGroupingMark c = false) → Nests w 0
  | [], _, level, rest => (Nat.max_eq_right (level_le_deepestFrom level rest)).symm
  | c :: w, ungrouped, level, rest => by
    obtain ⟨plain, others⟩ := List.forall_mem_cons.mp ungrouped
    have not_open : c ≠ '(' := by
      rintro rfl
      cases plain
    have not_close : c ≠ ')' := by
      rintro rfl
      cases plain
    rw [List.cons_append, deepestFrom_cons not_open not_close]
    exact nests_ungrouped others level rest

/-- Operands on both sides of a connective stand at the same level. -/
theorem Nests.join {w v : List Char} {left right : Nat} (first : Nests w left)
    (second : Nests v right) (connective : Connective) :
    Nests (w ++ connective.mark :: v) (max left right) := by
  intro level rest
  have not_open : connective.mark ≠ '(' := by cases connective <;> decide
  have not_close : connective.mark ≠ ')' := by cases connective <;> decide
  rw [List.append_assoc, first, List.cons_append, deepestFrom_cons not_open not_close, second]
  omega

/-- A group stands one level deeper than what is in it. -/
theorem Nests.group {w : List Char} {depth : Nat} (inside : Nests w depth) :
    Nests ('(' :: w ++ [')']) (depth + 1) := by
  intro level rest
  have above := level_le_deepestFrom level rest
  have closed : deepestFrom (level + 1) (')' :: rest) = max (level + 1) (deepestFrom level rest) :=
    rfl
  calc deepestFrom level ('(' :: w ++ [')'] ++ rest)
      = max level (deepestFrom (level + 1) (w ++ ')' :: rest)) := by
        rw [List.cons_append, List.cons_append, List.append_assoc]
        rfl
    _ = max (level + (depth + 1)) (deepestFrom level rest) := by
        rw [inside, closed]
        omega

theorem Nests.marked {w : List Char} {depth : Nat} (h : Nests w depth) : Nests ('!' :: w) depth := by
  intro level rest
  rw [List.cons_append, deepestFrom_cons (by decide) (by decide)]
  exact h level rest

/-! ## 2. Derivations -/

namespace Grammar

mutual

theorem nests_of_operand {depth : Nat} {w : List Char} {t : Tree} (h : Operand depth w t) :
    ∃ least, least ≤ depth ∧ Nests w least ∧ Operand least w t := by
  match h with
  | .clause some_char ungrouped parsed =>
    exact ⟨0, Nat.zero_le _, nests_ungrouped ungrouped, .clause some_char ungrouped parsed⟩
  | .group body =>
    obtain ⟨least, fits, nests, tight⟩ := nests_of_body body
    exact ⟨least + 1, Nat.succ_le_succ fits, nests.group, .group tight⟩
  | .negatedGroup body =>
    obtain ⟨least, fits, nests, tight⟩ := nests_of_body body
    exact ⟨least + 1, Nat.succ_le_succ fits, nests.group.marked, .negatedGroup tight⟩
termination_by structural h

/-- **A text derives within the depth of its own parentheses.** -/
theorem nests_of_body {depth : Nat} {w : List Char} {t : Tree} (h : Body depth w t) :
    ∃ least, least ≤ depth ∧ Nests w least ∧ Body least w t := by
  match h with
  | .single operand =>
    obtain ⟨least, fits, nests, tight⟩ := nests_of_operand operand
    exact ⟨least, fits, nests, .single tight⟩
  | .join body connective operand =>
    obtain ⟨left, left_fits, left_nests, left_tight⟩ := nests_of_body body
    obtain ⟨right, right_fits, right_nests, right_tight⟩ := nests_of_operand operand
    exact ⟨max left right, Nat.max_le.mpr ⟨left_fits, right_fits⟩,
      left_nests.join right_nests connective,
      .join (left_tight.mono (Nat.le_max_left _ _)) connective
        (right_tight.mono (Nat.le_max_right _ _))⟩
termination_by structural h

end

/-- **Depth is what the parentheses say**: a text that derives within some depth derives within
    every depth from that of its parentheses on, and within no smaller one. -/
theorem body_iff_parenDepth_le {room : Nat} {w : List Char} {t : Tree} (h : Body room w t)
    (depth : Nat) : Body depth w t ↔ parenDepth w ≤ depth := by
  constructor
  · intro body
    obtain ⟨least, fits, nests, -⟩ := nests_of_body body
    rw [nests.parenDepth_eq]
    exact fits
  · intro fits
    obtain ⟨least, -, nests, tight⟩ := nests_of_body h
    rw [nests.parenDepth_eq] at fits
    exact tight.mono fits

end Grammar

end FilterQuery
