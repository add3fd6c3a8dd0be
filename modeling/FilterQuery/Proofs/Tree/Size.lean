import FilterQuery.Proofs.Clause.Size
import FilterQuery.Proofs.Grammar.Nesting
import FilterQuery.Proofs.Tree.RoundTrip

/-!
# Canonical texts and limits

A query that was accepted is written with groups that nest no deeper, so its canonical text can only
fail the limit on length. It may do so: a clause grows by up to four bytes, and nothing else does.

* `size_of_body` -- the canonical text of what a text derives has at most four bytes more for each
  leaf;
* `growth_of_parse` -- that is how far a canonical text can grow, and its parentheses nest no deeper
  than those of the text that was read;
* `parse_render_iff_fits` -- so the reader that accepted a query accepts its canonical text exactly
  if that is not too long, and four more bytes for each leaf are always enough;
* `parse_render_refused` -- the room is needed.
-/

namespace FilterQuery

open Grammar
open String (utf8Len utf8Len_append utf8Len_cons utf8Len_nil utf8Len_toList)

namespace Tree

/-! ## 1. Operands -/

theorem utf8Len_grouped (w : List Char) : utf8Len ('(' :: w ++ [')']) = utf8Len w + 2 := by
  rw [utf8Len_append, utf8Len_cons]
  rfl

theorem utf8Len_render_not (t : Tree) :
    utf8Len (Tree.not t).render.toList = utf8Len t.render.toList + 3 := by
  rw [toList_render_not, List.cons_append, utf8Len_cons, utf8Len_grouped]
  rfl

theorem utf8Len_operandText_le (t : Tree) :
    utf8Len t.operandText ≤ utf8Len t.render.toList + 2 := by
  unfold operandText
  split
  · rw [utf8Len_grouped]
  · exact Nat.le_add_right _ 2

theorem utf8Len_render_le_operandText (t : Tree) :
    utf8Len t.render.toList ≤ utf8Len t.operandText := by
  unfold operandText
  split
  · rw [utf8Len_grouped]
    exact Nat.le_add_right _ 2
  · exact Nat.le_refl _

/-- A negation that is folded into a normal tree takes no more bytes than the group that it was
    written in front of. -/
theorem utf8Len_negate_le {t : Tree} (h : t.Normal) :
    utf8Len t.negate.operandText ≤ utf8Len t.render.toList + 3 := by
  cases t with
  | noop => exact h.elim
  | leaf s =>
    have turned := Segment.utf8Len_render_negate_le h.1.path_ne_nil
    show utf8Len s.negate.render.toList ≤ utf8Len s.render.toList + 3
    omega
  | binary connective l r =>
    show utf8Len (Tree.not (.binary connective l r)).render.toList ≤ _
    rw [utf8Len_render_not]
  | not t =>
    have grouped := utf8Len_operandText_le t
    show utf8Len t.operandText ≤ _
    rw [utf8Len_render_not]
    omega

/-! ## 2. Derivations -/

theorem utf8Len_mark (connective : Connective) (w : List Char) :
    utf8Len (connective.mark :: w) = utf8Len w + 1 := by
  rw [utf8Len_cons]
  cases connective <;> rfl

mutual

theorem size_of_operand {depth : Nat} {w : List Char} {t : Tree} (h : Operand depth w t) :
    utf8Len t.operandText ≤ utf8Len w + 4 * t.leaves.length := by
  match h with
  | .clause _ _ parsed =>
    exact Segment.size_render_le_of_read (Segment.parse_ofList_eq_ok_iff.mp parsed)
  | .group body =>
    have inside := size_of_body body
    have grouped := utf8Len_operandText_le t
    rw [utf8Len_grouped]
    omega
  | .negatedGroup (t := t) body =>
    have inside := size_of_body body
    have folded := utf8Len_negate_le (normal_of_body body).1
    rw [length_leaves_negate, List.cons_append, utf8Len_cons, utf8Len_grouped]
    have mark : '!'.utf8Size = 1 := rfl
    omega
termination_by structural h

/-- **The canonical text of what a text derives** has at most four bytes more for each leaf. -/
theorem size_of_body {depth : Nat} {w : List Char} {t : Tree} (h : Body depth w t) :
    utf8Len t.render.toList ≤ utf8Len w + 4 * t.leaves.length := by
  match h with
  | .single operand =>
    exact Nat.le_trans (utf8Len_render_le_operandText t) (size_of_operand operand)
  | .join body connective operand =>
    have left := size_of_body body
    have right := size_of_operand operand
    rw [toList_render_binary, utf8Len_append, utf8Len_append, utf8Len_mark, utf8Len_mark, leaves,
      List.length_append]
    omega
termination_by structural h

end

end Tree

namespace Query

/-! ## 3. Queries -/

/-- The canonical text of a query has at most four bytes more for each leaf. -/
theorem size_render_le {limits : Limits} {text : String} {q : Query}
    (h : Query.parse limits text = .ok q) :
    q.render.utf8ByteSize ≤ text.utf8ByteSize + 4 * q.root.leaves.length := by
  rw [← utf8Len_toList, ← utf8Len_toList]
  obtain ⟨_, _, ⟨_, noop⟩ | body⟩ := query_eq_ok_iff.mp h
  · unfold render
    rw [noop]
    exact Nat.zero_le _
  · exact Tree.size_of_body body

/-- A text that is too long is refused as such. -/
theorem parse_of_long {limits : Limits} {text : String}
    (long : limits.maxLength < text.utf8ByteSize) :
    Query.parse limits text =
      .error (.malformed (.tooLong text.utf8ByteSize limits.maxLength)) := by
  unfold Query.parse Tree.parse
  rw [if_pos long]

/-- **Canonical texts and limits**: under the limits under which a query was accepted, its canonical
    text is read as the same tree exactly if it is not too long, and it is refused only for its
    length; with four more bytes for each leaf it is always accepted. -/
theorem parse_render_iff_fits {limits : Limits} {text : String} {q : Query}
    (h : Query.parse limits text = .ok q) :
    ((∃ again, Query.parse limits q.render = .ok again ∧ again.root = q.root) ↔
      q.render.utf8ByteSize ≤ limits.maxLength) ∧
    (¬ q.render.utf8ByteSize ≤ limits.maxLength → Query.parse limits q.render =
      .error (.malformed (.tooLong q.render.utf8ByteSize limits.maxLength))) ∧
    ∃ again, Query.parse { limits with maxLength := limits.maxLength + 4 * q.root.leaves.length }
      q.render = .ok again ∧ again.root = q.root := by
  have short : text.utf8ByteSize ≤ limits.maxLength := (query_eq_ok_iff.mp h).2.1
  have grown := size_render_le h
  have room : q.render.utf8ByteSize ≤ limits.maxLength + 4 * q.root.leaves.length :=
    Nat.le_trans grown (by omega)
  rw [exists_query_iff, exists_query_iff]
  exact ⟨⟨fun denotes => denotes.1, fun fits => denotes_render h fits⟩,
    fun long => parse_of_long (Nat.lt_of_not_le long), denotes_render h room⟩

/-- A query of fifteen bytes with three leaves. Its canonical text has nineteen, since a keyword
    keeps the inner `not`. -/
theorem parse_render_iff_fits_kept_not :
    ∃ q, Query.parse { maxDepth := 1, maxLength := 15 } "x.not.not&(a;b)" = .ok q ∧
      q.render = "!x.not.iexact&(a;b)" ∧
      Query.parse { maxDepth := 1, maxLength := 15 } q.render =
        .error (.malformed (.tooLong 19 15)) ∧
      ∃ again, Query.parse { maxDepth := 1, maxLength := 27 } q.render = .ok again ∧
        again.root = q.root := by
  have read : Query.parse { maxDepth := 1, maxLength := 15 } "x.not.not&(a;b)" = .ok
      { text := "x.not.not&(a;b)"
        root := .binary .both (.leaf { path := ["x", "not"], negated := true })
          (.binary .either (.leaf { path := ["a"] }) (.leaf { path := ["b"] })) } := by
    rfl
  obtain ⟨-, refused, accepted⟩ := parse_render_iff_fits read
  exact ⟨_, read, by rfl, refused (by decide), accepted⟩

/-- **The room is needed**: a query that is as long as its limit allows may be refused once it is
    written canonically. -/
theorem parse_render_refused :
    ¬ ∀ (limits : Limits) (text : String) (q : Query), Query.parse limits text = .ok q →
      ∃ again, Query.parse limits q.render = .ok again ∧ again.root = q.root := by
  intro kept
  have read : Query.parse { maxLength := 9 } "x.not.not" = .ok
      { text := "x.not.not", root := .leaf { path := ["x", "not"], negated := true } } := by
    rfl
  obtain ⟨again, read_again, -⟩ := kept _ _ _ read
  have refused : Query.parse { maxLength := 9 } "!x.not.iexact" =
      .error (.malformed (.tooLong 13 9)) := by
    rfl
  have written : ("!x.not.iexact" : String) = Query.render
      { text := "x.not.not", root := .leaf { path := ["x", "not"], negated := true } } := by
    rfl
  rw [written] at refused
  rw [refused] at read_again
  cases read_again

/-! ## 4. Growth -/

/-- The parentheses of a canonical text nest no deeper than those of the text that was read. -/
theorem parenDepth_render_le {limits : Limits} {text : String} {q : Query}
    (h : Query.parse limits text = .ok q) :
    parenDepth q.render.toList ≤ parenDepth text.toList := by
  obtain ⟨_, _, ⟨_, noop⟩ | body⟩ := query_eq_ok_iff.mp h
  · unfold render
    rw [noop]
    exact Nat.zero_le _
  · -- the text needs no more depth than it shows, and its canonical text needs no more than it
    have tight := (body_iff_parenDepth_le body (parenDepth text.toList)).mpr (Nat.le_refl _)
    obtain ⟨normal, nested⟩ := Tree.normal_of_body tight
    have canonical := (Tree.derives_of_normal normal).1 (parenDepth text.toList) nested
    exact (body_iff_parenDepth_le canonical _).mp canonical

/-- **How far a canonical text can grow**: it has at most four bytes more for each segment of the
    query than the text that was read, and its parentheses nest no deeper. -/
theorem growth_of_parse {limits : Limits} {text : String} {q : Query}
    (h : Query.parse limits text = .ok q) :
    q.render.utf8ByteSize ≤ text.utf8ByteSize + 4 * q.segments.length ∧
      parenDepth q.render.toList ≤ parenDepth text.toList := by
  have leaves : q.segments = q.root.leaves := Walk.toList_of q.root
  rw [leaves]
  exact ⟨size_render_le h, parenDepth_render_le h⟩

/-- The first clause grows by all four bytes, the second by two; of the four groups that nest around
    the last, one is left. -/
theorem growth_of_parse_kept_not :
    ∃ q, Query.parse {} "x.not.not;(!(!(x.not.lt=1&(y))))" = .ok q ∧
      q.render = "!x.not.iexact;(!x.not.not<1&y)" ∧ q.render.utf8ByteSize ≤ 32 + 4 * 3 ∧
      parenDepth q.render.toList ≤ 4 := by
  have read : Query.parse {} "x.not.not;(!(!(x.not.lt=1&(y))))" = .ok
      { text := "x.not.not;(!(!(x.not.lt=1&(y))))"
        root := .binary .either (.leaf { path := ["x", "not"], negated := true })
          (.binary .both
            (.leaf { path := ["x", "not"], operator := .lessThan, values := ["1"] })
            (.leaf { path := ["y"] })) } := by
    rfl
  obtain ⟨size, depth⟩ := growth_of_parse read
  rw [segments, Walk.toList_of] at size
  exact ⟨_, read, by rfl, size, depth⟩

end Query

end FilterQuery
