import FilterQuery.Proofs.Grammar
import FilterQuery.Proofs.Pieces

/-!
# Every reading is derived

The invariant of the reader: a draft SPELLS the text that has been read. Cut at the groups that are
still open, the text consists of

* for every open group, the operands in front of it with their connective, and its `(` or `!(`
  (`SpellsOuter`);
* the operands of the innermost group that are already joined, with the connective that waits
  (`SpellsJoined`);
* the operand at hand, as far as it has been read (`SpellsSlot`).

Each piece is derived from the grammar at the depth that the open groups leave. `spells_push` is the
step, `spells_of_run` the run, and at the end of the text the pieces are one body.
-/

namespace FilterQuery.Grammar

open Draft

variable {limits : Limits}

/-! ## 1. What a draft spells -/

/-- The text of the joined operands and of the connective behind them. -/
inductive SpellsJoined (depth : Nat) : Joined → List Char → Prop where
  | nothing : SpellsJoined depth none []
  | waiting {w : List Char} {t : Tree} (body : Body depth w t) (connective : Connective) :
      SpellsJoined depth (some (t, connective)) (w ++ [connective.mark])

/-- The text of the operand at hand. -/
inductive SpellsSlot (depth : Nat) : Slot → List Char → Prop where
  | clause {read : List Char} (ungrouped : ∀ c ∈ read, isGroupingMark c = false) :
      SpellsSlot depth (.clause read) read.reverse
  | group {w : List Char} {t : Tree} (operand : Operand depth w t) :
      SpellsSlot depth (.group t) w
  | marked {w : List Char} {t : Tree} (operand : Operand depth w t) :
      SpellsSlot depth (.marked t) (w ++ ['!'])

/-- The text that opens a group. -/
def opening (negated : Bool) : List Char :=
  if negated then ['!', '('] else ['(']

/-- The text up to the innermost open group. Under `limit` groups, each one leaves less room. -/
inductive SpellsOuter (limit : Nat) : List Frame → List Char → Prop where
  | nil : SpellsOuter limit [] []
  | cons {frame : Frame} {outer : List Frame} {u v : List Char} (rest : SpellsOuter limit outer u)
      (left : SpellsJoined (limit - outer.length) frame.left v) (fits : outer.length < limit) :
      SpellsOuter limit (frame :: outer) (u ++ v ++ opening frame.negated)

/-- **The invariant**: the pieces of a draft make up the text that has been read. -/
def Spells (limit : Nat) (d : Draft) (w : List Char) : Prop :=
  ∃ u v x, SpellsOuter limit d.outer u ∧ SpellsJoined (limit - d.outer.length) d.left v ∧
    SpellsSlot (limit - d.outer.length) d.slot x ∧ w = u ++ v ++ x

theorem spellsSlot_nil (depth : Nat) : SpellsSlot depth (.clause []) [] :=
  .clause (fun _ h => absurd h List.not_mem_nil)

theorem spells_start (limit : Nat) : Spells limit {} [] :=
  ⟨[], [], [], .nil, .nothing, spellsSlot_nil _, rfl⟩

/-! ## 2. Operands and bodies of a draft -/

/-- The operand that a slot yields is derived from the text of the slot. -/
theorem operand_of_slot {depth : Nat} {d : Draft} {x : List Char} {t : Tree}
    (slot : SpellsSlot depth d.slot x) (h : d.operand? = .ok (some t)) : Operand depth x t := by
  unfold operand? at h
  generalize d.slot = held at slot h
  cases slot with
  | @clause read ungrouped =>
    split at h
    · cases h
    · next reversed some_char same =>
      cases same
      split at h
      · next s parsed =>
        cases h
        refine .clause ?_ (fun c hc => ungrouped c (List.mem_reverse.mp hc)) parsed
        intro empty
        exact some_char (by rw [List.reverse_eq_nil_iff.mp empty])
      · cases h
    · next same => cases same
    · next same => cases same
  | group operand =>
    cases h
    exact operand
  | marked operand => cases h

/-- A draft that closes yields a tree of its innermost group. -/
theorem body_of_close {depth : Nat} {d : Draft} {v x : List Char} {t : Tree} {vacant : QueryFault}
    (left : SpellsJoined depth d.left v) (slot : SpellsSlot depth d.slot x)
    (h : d.close vacant = .ok t) : Body depth (v ++ x) t := by
  unfold close at h
  obtain ⟨result, found, ended⟩ := bind_eq_ok.mp h
  cases result with
  | none => cases ended
  | some u =>
    cases ended
    have operand := operand_of_slot slot found
    unfold join
    generalize d.left = waiting at left
    cases left with
    | nothing => exact .single operand
    | waiting body connective =>
      rw [List.append_assoc]
      exact .join body connective operand

/-! ## 3. One character -/

/-- **The ways in which a character is read**: an opening parenthesis, or, unless a `!` follows a
    closed group, a connective, a closing parenthesis or a character of a clause. -/
theorem push_cases {d e : Draft} {c : Char} (h : d.push limits c = .ok e) :
    (c = '(' ∧ ∃ position, d.openGroup limits position = .ok e) ∨
    (∃ connective position, c = Connective.mark connective ∧ d.connect connective position = .ok e) ∨
    (c = ')' ∧ ∃ position, d.closeGroup position = .ok e) ∨
    (isGroupingMark c = false ∧ ∃ position, d.addChar c position = .ok e) := by
  unfold push at h
  simp only at h
  split at h
  · next opens => exact .inl ⟨opens, _, h⟩
  · split at h
    · cases h
    · split at h
      · next both => exact .inr (.inl ⟨.both, _, both, h⟩)
      · split at h
        · next either => exact .inr (.inl ⟨.either, _, either, h⟩)
        · split at h
          · next closes => exact .inr (.inr (.inl ⟨closes, _, h⟩))
          · refine .inr (.inr (.inr ⟨?_, _, h⟩))
            simp_all [isGroupingMark]

/-- A group opens only where an operand is expected, and only if there is room for it. -/
theorem openGroup_cases {d e : Draft} {position : Nat} (h : d.openGroup limits position = .ok e) :
    ∃ negated, d.slot = .clause (if negated then ['!'] else []) ∧
      d.outer.length < limits.maxDepth ∧
      e = { outer := { left := d.left, negated } :: d.outer, position } := by
  have entered : ∀ {negated : Bool}, openGroup.enter limits d position negated = .ok e →
      d.outer.length < limits.maxDepth ∧
        e = { outer := { left := d.left, negated } :: d.outer, position } := by
    intro negated h
    unfold openGroup.enter at h
    split at h
    · cases h
    · next fits =>
      cases h
      exact ⟨by omega, rfl⟩
  unfold openGroup at h
  split at h
  · next empty => exact ⟨false, empty, entered h⟩
  · next mark => exact ⟨true, mark, entered h⟩
  · cases h

theorem spells_openGroup {d e : Draft} {w : List Char} {position : Nat}
    (spells : Spells limits.maxDepth d w) (h : d.openGroup limits position = .ok e) :
    Spells limits.maxDepth e (w ++ ['(']) := by
  obtain ⟨u, v, x, outer, left, slot, rfl⟩ := spells
  obtain ⟨negated, same, fits, rfl⟩ := openGroup_cases h
  refine ⟨u ++ v ++ opening negated, [], [], .cons outer left fits, .nothing, spellsSlot_nil _, ?_⟩
  rw [same] at slot
  cases slot with
  | clause => cases negated <;> simp [opening]

theorem spells_connect {limit : Nat} {d e : Draft} {w : List Char} {connective : Connective}
    {position : Nat} (spells : Spells limit d w) (h : d.connect connective position = .ok e) :
    Spells limit e (w ++ [connective.mark]) := by
  obtain ⟨u, v, x, outer, left, slot, rfl⟩ := spells
  unfold connect at h
  obtain ⟨t, closed, waits⟩ := bind_eq_ok.mp h
  cases waits
  refine ⟨u, v ++ x ++ [connective.mark], [], outer, .waiting (body_of_close left slot closed) _,
    spellsSlot_nil _, ?_⟩
  simp

/-- A closed group is an operand one level further out. -/
theorem operand_of_group {depth : Nat} {w : List Char} {t : Tree} (h : Body depth w t)
    (negated : Bool) :
    Operand (depth + 1) (opening negated ++ w ++ [')']) (if negated then t.negate else t) := by
  cases negated with
  | false => exact .group h
  | true => exact .negatedGroup h

theorem spells_closeGroup {limit : Nat} {d e : Draft} {w : List Char} {position : Nat}
    (spells : Spells limit d w) (h : d.closeGroup position = .ok e) :
    Spells limit e (w ++ [')']) := by
  obtain ⟨u, v, x, outer, left, slot, rfl⟩ := spells
  unfold closeGroup at h
  split at h
  · cases h
  · next frame around same =>
    rw [same] at outer left slot
    obtain ⟨t, closed, leaves⟩ := bind_eq_ok.mp h
    cases leaves
    cases outer with
    | @cons _ _ u v' rest leftward fits =>
      -- the group that closes had one level less than the one around it
      have room : limit - around.length = limit - (frame :: around).length + 1 := by
        simp only [List.length_cons]
        omega
      have group := operand_of_group (body_of_close left slot closed) frame.negated
      rw [← room] at group
      exact ⟨u, v', _, rest, leftward, .group group, by simp⟩

theorem spells_addChar {limit : Nat} {d e : Draft} {w : List Char} {c : Char} {position : Nat}
    (ungrouped : isGroupingMark c = false) (spells : Spells limit d w)
    (h : d.addChar c position = .ok e) : Spells limit e (w ++ [c]) := by
  obtain ⟨u, v, x, outer, left, slot, rfl⟩ := spells
  unfold addChar at h
  split at h
  · next read same =>
    cases h
    rw [same] at slot
    cases slot with
    | clause before =>
      have all_ungrouped : ∀ a ∈ c :: read, isGroupingMark a = false :=
        List.forall_mem_cons.mpr ⟨ungrouped, before⟩
      exact ⟨u, v, _, outer, left, .clause all_ungrouped, by simp⟩
  · next t same =>
    split at h
    · next mark =>
      cases h
      subst mark
      rw [same] at slot
      cases slot with
      | group operand => exact ⟨u, v, _, outer, left, .marked operand, by simp⟩
    · cases h
  · cases h

/-- **One character**: if a draft spells what has been read, so does the next one. -/
theorem spells_push {d e : Draft} {w : List Char} {c : Char}
    (spells : Spells limits.maxDepth d w) (h : d.push limits c = .ok e) :
    Spells limits.maxDepth e (w ++ [c]) := by
  rcases push_cases h with ⟨rfl, _, opened⟩ | ⟨connective, _, rfl, connected⟩ | ⟨rfl, _, closed⟩ |
    ⟨ungrouped, _, added⟩
  · exact spells_openGroup spells opened
  · exact spells_connect spells connected
  · exact spells_closeGroup spells closed
  · exact spells_addChar ungrouped spells added

/-! ## 4. The whole text -/

/-- **A whole run**: a draft spells every text that leads to it. -/
theorem spells_of_run : ∀ (text w : List Char) (d e : Draft), Spells limits.maxDepth d w →
    text.foldlM (Draft.push limits) d = .ok e → Spells limits.maxDepth e (w ++ text)
  | [], w, d, e, spells, h => by
    cases h
    rw [List.append_nil]
    exact spells
  | c :: text, w, d, e, spells, h => by
    rw [List.foldlM_cons] at h
    obtain ⟨next, pushed, run⟩ := bind_eq_ok.mp h
    have rest := spells_of_run text (w ++ [c]) next e (spells_push spells pushed) run
    rw [List.append_assoc] at rest
    exact rest

/-- A draft that may end here spells a body. -/
theorem body_of_finish {limit : Nat} {d : Draft} {w : List Char} {t : Tree}
    (spells : Spells limit d w) (h : d.finish = .ok t) : Body limit w t := by
  obtain ⟨u, v, x, outer, left, slot, rfl⟩ := spells
  unfold finish at h
  split at h
  · cases h
  · split at h
    · next outermost =>
      rw [List.isEmpty_iff.mp outermost] at outer left slot
      cases outer with
      | nil => exact body_of_close left slot h
    · cases h

/-- **The reader accepts nothing but derivations**, and builds their trees. -/
theorem body_of_read {text : List Char} {t : Tree} (h : Tree.read limits text = .ok t) :
    Body limits.maxDepth text t := by
  unfold Tree.read at h
  obtain ⟨d, run, finished⟩ := bind_eq_ok.mp h
  exact body_of_finish (spells_of_run text [] {} d (spells_start _) run) finished

end FilterQuery.Grammar
