import FilterQuery.Proofs.Grammar

/-!
# Every derivation is read

The reader accepts what the grammar derives, with the tree of the derivation.

* `Reads` -- one draft becomes another over a text, character by character;
* `push_…` -- one equation for each kind of character;
* `reads_operand`, `reads_body` -- from a draft in which an operand is expected, the text of a
  derivation leads to a draft that holds its tree. The groups that are open around it, and the
  operands in front of it, stay as they are, which is what lets the induction go through groups.
-/

namespace FilterQuery

variable {limits : Limits}

/-! ## 1. Reading a text -/

/-- A text leads from one draft to another. -/
def Draft.Reads (limits : Limits) (d : Draft) (w : List Char) (e : Draft) : Prop :=
  w.foldlM (Draft.push limits) d = .ok e

namespace Draft

theorem Reads.refl (d : Draft) : Reads limits d [] d := rfl

theorem Reads.char {d e : Draft} {c : Char} (h : d.push limits c = .ok e) :
    Reads limits d [c] e := by
  unfold Reads
  rw [List.foldlM_cons, h]
  rfl

theorem Reads.append {d e f : Draft} {w v : List Char} (first : Reads limits d w e)
    (second : Reads limits e v f) : Reads limits d (w ++ v) f := by
  unfold Reads at *
  rw [List.foldlM_append, first]
  exact second

theorem Reads.cons {d e f : Draft} {c : Char} {w : List Char} (first : d.push limits c = .ok e)
    (second : Reads limits e w f) : Reads limits d (c :: w) f :=
  (Reads.char first).append second

/-! ## 2. One character -/

theorem push_open (d : Draft) :
    d.push limits '(' = d.openGroup limits (d.position + '('.utf8Size) := by
  simp only [push, if_true]

theorem push_mark {d : Draft} (plain : d.slot.isMarked = false) (connective : Connective) :
    d.push limits connective.mark =
      d.connect connective (d.position + connective.mark.utf8Size) := by
  cases connective <;> simp [push, plain, Connective.mark]

theorem push_close {d : Draft} (plain : d.slot.isMarked = false) :
    d.push limits ')' = d.closeGroup (d.position + ')'.utf8Size) := by
  simp [push, plain]

theorem push_char {d : Draft} (plain : d.slot.isMarked = false) {c : Char}
    (ungrouped : isGroupingMark c = false) :
    d.push limits c = d.addChar c (d.position + c.utf8Size) := by
  simp only [isGroupingMark, Bool.or_eq_false_iff, beq_eq_false_iff_ne, ne_eq] at ungrouped
  obtain ⟨⟨⟨not_and, not_or⟩, not_open⟩, not_close⟩ := ungrouped
  simp [push, plain, not_and, not_or, not_open, not_close]

/-- The draft inside a group that has just been opened. -/
theorem enter_eq {d : Draft} {depth : Nat} (fits : d.outer.length + (depth + 1) ≤ limits.maxDepth)
    (position : Nat) (negated : Bool) :
    openGroup.enter limits d position negated =
      .ok { outer := { left := d.left, negated } :: d.outer, position } := by
  unfold openGroup.enter
  rw [if_neg (by omega)]

end Draft

/-! ## 3. Operands -/

/-- A slot that holds a whole operand, whatever the draft around it. -/
structure Slot.Holds (slot : Slot) (t : Tree) : Prop where
  plain : slot.isMarked = false
  operand : ∀ d : Draft, d.slot = slot → d.operand? = .ok (some t)

theorem Slot.holds_group (t : Tree) : (Slot.group t).Holds t where
  plain := rfl
  operand d h := by simp only [Draft.operand?, h]

theorem Slot.holds_clause {w : List Char} {s : Segment} (some_char : w ≠ [])
    (parsed : Segment.parse (String.ofList w) = .ok s) :
    (Slot.clause w.reverse).Holds (.leaf s) where
  plain := rfl
  operand d h := by
    unfold Draft.operand?
    rw [h]
    split
    · next empty =>
      simp only [Slot.clause.injEq, List.reverse_eq_nil_iff] at empty
      exact absurd empty some_char
    · next reversed _ same =>
      simp only [Slot.clause.injEq] at same
      subst same
      rw [List.reverse_reverse, parsed]
    · next same => cases same
    · next same => cases same

namespace Draft

/-- A draft whose slot holds an operand closes with the operands in front of it. -/
theorem close_of_holds {d : Draft} {t : Tree} (h : d.slot.Holds t) (vacant : QueryFault) :
    d.close vacant = .ok (join d.left t) := by
  unfold close
  rw [h.operand d rfl]
  rfl

/-- The characters of a clause gather in the slot. -/
theorem reads_clause (limits : Limits) (outer : List Frame) (left : Joined) :
    ∀ (w read : List Char) (position : Nat), (∀ c ∈ w, isGroupingMark c = false) →
    ∃ after, Reads limits { outer, left, slot := .clause read, position } w
      { outer, left, slot := .clause (w.reverse ++ read), position := after }
  | [], _, position, _ => ⟨position, Reads.refl _⟩
  | c :: w, read, position, ungrouped => by
    have first : push limits { outer, left, slot := .clause read, position } c =
        .ok { outer, left, slot := .clause (c :: read), position := position + c.utf8Size } := by
      rw [push_char rfl (ungrouped c List.mem_cons_self)]
      rfl
    obtain ⟨after, rest⟩ := reads_clause limits outer left w (c :: read) (position + c.utf8Size)
      (fun x hx => ungrouped x (List.mem_cons_of_mem _ hx))
    refine ⟨after, ?_⟩
    rw [List.reverse_cons, List.append_assoc]
    exact Reads.cons first rest

end Draft

/-! ## 4. Derivations -/

namespace Grammar

open Draft

/-- A draft that holds a tree inside the groups that are open around it. -/
structure Held (outer : List Frame) (d : Draft) (t : Tree) : Prop where
  outer_eq : d.outer = outer
  plain : d.slot.isMarked = false
  close_eq : ∀ vacant, d.close vacant = .ok t

theorem held_of_holds {d : Draft} {u : Tree} (h : d.slot.Holds u) :
    Held d.outer d (join d.left u) where
  outer_eq := rfl
  plain := h.plain
  close_eq := close_of_holds h

/-- What a closing parenthesis makes of a draft that holds a tree. -/
theorem closeGroup_eq {frame : Frame} {outer : List Frame} {d : Draft} {t : Tree}
    (h : Held (frame :: outer) d t) (position : Nat) :
    d.closeGroup position =
      .ok { outer, left := frame.left, position,
            slot := .group (if frame.negated then t.negate else t) } := by
  unfold closeGroup
  rw [h.outer_eq]
  simp only [h.close_eq]
  rfl

/-- What is read inside a group makes it an operand, negated if a negation mark stood in front. -/
theorem reads_group {depth : Nat} {w : List Char} {t : Tree} {outer : List Frame} {left : Joined}
    {negated : Bool} {position : Nat} {d : Draft}
    (fits : outer.length + (depth + 1) ≤ limits.maxDepth)
    (inside : Reads limits
      { outer := { left, negated } :: outer, position := position + '('.utf8Size } w d)
    (held : Held ({ left, negated } :: outer) d t) :
    Reads limits { outer, left, slot := .clause (if negated then ['!'] else []), position }
      ('(' :: w ++ [')'])
      { outer, left, slot := .group (if negated then t.negate else t),
        position := d.position + ')'.utf8Size } := by
  have opened : push limits
      { outer, left, slot := .clause (if negated then ['!'] else []), position } '(' =
      .ok { outer := { left, negated } :: outer, position := position + '('.utf8Size } := by
    rw [push_open]
    cases negated <;> exact enter_eq fits _ _
  have closed : d.push limits ')' =
      .ok { outer, left, slot := .group (if negated then t.negate else t),
            position := d.position + ')'.utf8Size } := by
    rw [push_close held.plain, closeGroup_eq held]
  exact Reads.append (Reads.cons opened inside) (Reads.char closed)

mutual

/-- **The text of an operand fills the slot with its tree**, and changes nothing around it. -/
theorem reads_operand {depth : Nat} {w : List Char} {t : Tree} (h : Operand depth w t)
    (outer : List Frame) (left : Joined) (position : Nat)
    (fits : outer.length + depth ≤ limits.maxDepth) :
    ∃ slot after, slot.Holds t ∧
      Reads limits { outer, left, position } w { outer, left, slot, position := after } := by
  match h with
  | .clause some_char ungrouped parsed =>
    obtain ⟨after, reads⟩ := reads_clause limits outer left w [] position ungrouped
    rw [List.append_nil] at reads
    exact ⟨_, after, Slot.holds_clause some_char parsed, reads⟩
  | .group body =>
    obtain ⟨d, inside, held⟩ := reads_body body ({ left, negated := false } :: outer)
      (position + '('.utf8Size) (by simp only [List.length_cons]; omega)
    exact ⟨_, _, Slot.holds_group _, reads_group fits inside held⟩
  | .negatedGroup body =>
    have mark : push limits { outer, left, position } '!' =
        .ok { outer, left, slot := .clause ['!'], position := position + '!'.utf8Size } := by
      rw [push_char rfl (by decide)]
      rfl
    obtain ⟨d, inside, held⟩ := reads_body body ({ left, negated := true } :: outer)
      (position + '!'.utf8Size + '('.utf8Size) (by simp only [List.length_cons]; omega)
    exact ⟨_, _, Slot.holds_group _, Reads.cons mark (reads_group fits inside held)⟩
termination_by structural h

/-- **The text of a body leads to a draft that holds its tree.** -/
theorem reads_body {depth : Nat} {w : List Char} {t : Tree} (h : Body depth w t)
    (outer : List Frame) (position : Nat) (fits : outer.length + depth ≤ limits.maxDepth) :
    ∃ d, Reads limits { outer, position } w d ∧ Held outer d t := by
  match h with
  | .single operand =>
    obtain ⟨slot, after, holds, reads⟩ := reads_operand operand outer none position fits
    exact ⟨_, reads, held_of_holds (d := { outer, slot, position := after }) holds⟩
  | @Body.join _ _ _ t _ body connective operand =>
    obtain ⟨d, first, held⟩ := reads_body body outer position fits
    have connected : d.push limits connective.mark =
        .ok { outer, left := some (t, connective),
              position := d.position + connective.mark.utf8Size } := by
      rw [push_mark held.plain]
      unfold connect
      rw [held.close_eq, held.outer_eq]
      rfl
    obtain ⟨slot, after, holds, second⟩ := reads_operand operand outer (some (t, connective))
      (d.position + connective.mark.utf8Size) fits
    exact ⟨_, first.append (Reads.cons connected second), held_of_holds (d := Draft.mk ..) holds⟩
termination_by structural h

end

/-- **The reader accepts every derivation**, with its tree. -/
theorem read_of_body {text : List Char} {t : Tree} (h : Body limits.maxDepth text t) :
    Tree.read limits text = .ok t := by
  obtain ⟨d, reads, held⟩ := reads_body h [] 0 (Nat.le_of_eq (Nat.zero_add limits.maxDepth))
  have run : text.foldlM (Draft.push limits) {} = .ok d := reads
  have finished : d.finish = .ok t := by
    unfold finish
    rw [held.plain, held.outer_eq, held.close_eq]
    rfl
  unfold Tree.read
  rw [run]
  exact finished

end Grammar

end FilterQuery
