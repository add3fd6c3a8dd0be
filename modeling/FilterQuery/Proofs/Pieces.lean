/-!
# Pieces of a text

A text is cut at a separator, and every piece is read on its own. Reading the pieces succeeds when
reading each of them does (`mapM_eq_ok_iff`), and no piece holds the separator
(`not_mem_of_mem_splitOn`). What is found in the pieces together was found in one of them
(`flatMap_eq_append_cons`).
-/

namespace FilterQuery

/-! ## 1. Readings that may fail -/

/-- Two readings in a row succeed when both do. -/
theorem bind_eq_ok {ε α β : Type} {x : Except ε α} {f : α → Except ε β} {b : β} :
    x >>= f = .ok b ↔ ∃ a, x = .ok a ∧ f a = .ok b := by
  cases x with
  | error e =>
    constructor
    · intro h
      cases h
    · intro given
      obtain ⟨_, h, _⟩ := given
      cases h
  | ok a =>
    constructor
    · intro h
      exact ⟨a, rfl, h⟩
    · intro given
      obtain ⟨_, h, result⟩ := given
      cases h
      exact result

/-- Two readings in a row are refused when the first is, or when the second is behind it. -/
theorem bind_eq_error {ε α β : Type} {x : Except ε α} {f : α → Except ε β} {e : ε} :
    x >>= f = .error e ↔ x = .error e ∨ ∃ a, x = .ok a ∧ f a = .error e := by
  cases x with
  | error e' =>
    constructor
    · intro h
      cases h
      exact .inl rfl
    · intro given
      rcases given with h | ⟨_, h, _⟩
      · cases h
        rfl
      · cases h
  | ok a =>
    constructor
    · intro h
      exact .inr ⟨a, rfl, h⟩
    · intro given
      rcases given with h | ⟨_, h, refused⟩
      · cases h
      · cases h
        exact refused

/-- **All pieces are read** when each one is; `write` turns a result back into its piece. -/
theorem mapM_eq_ok_iff {ε α β : Type} {read : α → Except ε β} {write : β → α} {good : β → Prop}
    (spec : ∀ piece b, read piece = .ok b ↔ piece = write b ∧ good b) :
    ∀ (pieces : List α) (results : List β),
      pieces.mapM read = .ok results ↔ pieces = results.map write ∧ ∀ b ∈ results, good b
  | [], results => by
    rw [List.mapM_nil]
    constructor
    · intro h
      cases h
      exact ⟨rfl, fun _ h => absurd h List.not_mem_nil⟩
    · intro given
      obtain ⟨h, _⟩ := given
      rw [List.map_eq_nil_iff.mp h.symm]
      rfl
  | piece :: pieces, results => by
    rw [List.mapM_cons, bind_eq_ok]
    constructor
    · intro given
      obtain ⟨b, first, rest⟩ := given
      obtain ⟨bs, others, result⟩ := bind_eq_ok.mp rest
      cases result
      obtain ⟨rfl, good_b⟩ := (spec piece b).mp first
      obtain ⟨rfl, good_bs⟩ := (mapM_eq_ok_iff spec pieces bs).mp others
      exact ⟨rfl, List.forall_mem_cons.mpr ⟨good_b, good_bs⟩⟩
    · intro given
      obtain ⟨same, good_all⟩ := given
      cases results with
      | nil => cases same
      | cons b bs =>
        rw [List.map_cons, List.cons.injEq] at same
        obtain ⟨good_b, good_bs⟩ := List.forall_mem_cons.mp good_all
        refine ⟨b, (spec piece b).mpr ⟨same.1, good_b⟩, bind_eq_ok.mpr ⟨bs, ?_, rfl⟩⟩
        exact (mapM_eq_ok_iff spec pieces bs).mpr ⟨same.2, good_bs⟩

/-! ## 2. Cutting -/

/-- A piece does not hold the mark at which the text was cut. -/
theorem not_mem_of_mem_splitOn {sep : Char} : ∀ {text piece : List Char},
    piece ∈ text.splitOn sep → sep ∉ piece
  | [], piece, h => by
    rw [List.splitOn_nil, List.mem_singleton] at h
    subst h
    exact List.not_mem_nil
  | c :: text, piece, h => by
    rw [List.splitOn_cons_eq_if_modifyHead] at h
    split at h
    · rcases List.mem_cons.mp h with rfl | h
      · exact List.not_mem_nil
      · exact not_mem_of_mem_splitOn h
    · next other =>
      have before : ∀ p ∈ text.splitOn sep, sep ∉ p := fun _ hp => not_mem_of_mem_splitOn hp
      cases cut : text.splitOn sep with
      | nil => exact absurd cut (List.splitOn_ne_nil sep text)
      | cons first others =>
        rw [cut] at h before
        rcases List.mem_cons.mp h with rfl | h
        · intro inside
          rcases List.mem_cons.mp inside with rfl | inside
          · exact other (beq_self_eq_true _)
          · exact before first List.mem_cons_self inside
        · exact before piece (List.mem_cons_of_mem _ h)

/-- What stands in a piece stands in the joined text. -/
theorem mem_intercalate_of_mem {sep : List Char} {pieces : List (List Char)} {piece : List Char}
    {c : Char} (hp : piece ∈ pieces) (hc : c ∈ piece) : c ∈ List.intercalate sep pieces := by
  induction pieces with
  | nil => cases hp
  | cons first others ih =>
    cases others with
    | nil =>
      rw [List.mem_singleton.mp hp] at hc
      rw [List.intercalate_singleton]
      exact hc
    | cons second others =>
      rw [List.intercalate_cons_cons, List.mem_append, List.mem_append]
      rcases List.mem_cons.mp hp with rfl | hp
      · exact .inl (.inl hc)
      · exact .inr (ih hp)

/-- What stands in a joined text stands in a piece, or is a separator. -/
theorem mem_of_mem_intercalate {sep : List Char} {pieces : List (List Char)} {c : Char}
    (h : c ∈ List.intercalate sep pieces) : (∃ piece ∈ pieces, c ∈ piece) ∨ c ∈ sep := by
  induction pieces with
  | nil => cases h
  | cons first others ih =>
    cases others with
    | nil =>
      rw [List.intercalate_singleton] at h
      exact .inl ⟨first, List.mem_cons_self, h⟩
    | cons second others =>
      rw [List.intercalate_cons_cons, List.mem_append, List.mem_append] at h
      rcases h with (h | h) | h
      · exact .inl ⟨first, List.mem_cons_self, h⟩
      · exact .inr h
      · rcases ih h with ⟨piece, hp, hc⟩ | h
        · exact .inl ⟨piece, List.mem_cons_of_mem _ hp, hc⟩
        · exact .inr h

/-- Every piece but the first stands behind a separator. -/
theorem intercalate_cons {α : Type u} (sep first : List α) (others : List (List α)) :
    sep.intercalate (first :: others) = first ++ others.flatMap (sep ++ ·) := by
  induction others generalizing first with
  | nil => rw [List.intercalate_singleton, List.flatMap_nil, List.append_nil]
  | cons second others ih =>
    rw [List.intercalate_cons_cons, ih second, List.flatMap_cons, List.append_assoc,
      List.append_assoc]

/-- One more piece stands behind one more separator. -/
theorem intercalate_concat (sep : List Char) {pieces : List (List Char)} (some_piece : pieces ≠ [])
    (last : List Char) :
    sep.intercalate (pieces ++ [last]) = sep.intercalate pieces ++ (sep ++ last) := by
  cases pieces with
  | nil => exact absurd rfl some_piece
  | cons first others =>
    rw [List.cons_append, intercalate_cons, intercalate_cons, List.flatMap_append,
      List.flatMap_singleton, List.append_assoc]

/-! ## 3. Elements of joined lists -/

/-- An element of two lists in a row is one of the second list or one of the first. -/
theorem append_eq_append_cons {α : Type} {l r before after : List α} {x : α}
    (h : l ++ r = before ++ x :: after) :
    (∃ rest, before = l ++ rest ∧ r = rest ++ x :: after) ∨
      (∃ rest, l = before ++ x :: rest ∧ after = rest ++ r) := by
  rcases List.append_eq_append_iff.mp h with ⟨rest, before_eq, r_eq⟩ | ⟨rest, l_eq, behind⟩
  · exact .inl ⟨rest, before_eq, r_eq⟩
  · cases rest with
    | nil =>
      rw [List.append_nil] at l_eq
      exact .inl ⟨[], by rw [List.append_nil, l_eq], behind.symm⟩
    | cons y rest =>
      obtain ⟨rfl, after_eq⟩ := List.cons.inj behind
      exact .inr ⟨rest, l_eq, after_eq⟩

/-- An element of a flattened list comes from one of the lists, with what stands in front of it
    there and in the lists before. -/
theorem flatMap_eq_append_cons {α β : Type} (f : α → List β) :
    ∀ {xs : List α} {before after : List β} {y : β}, xs.flatMap f = before ++ y :: after →
      ∃ ws x zs earlier later, xs = ws ++ x :: zs ∧ f x = earlier ++ y :: later ∧
        before = ws.flatMap f ++ earlier
  | [], before, after, y, h => by
    rw [List.flatMap_nil] at h
    exact absurd h.symm (List.append_ne_nil_of_right_ne_nil _ (List.cons_ne_nil y after))
  | x :: xs, before, after, y, h => by
    rw [List.flatMap_cons] at h
    rcases append_eq_append_cons h with ⟨rest, before_eq, deeper⟩ | ⟨rest, here, -⟩
    · obtain ⟨ws, x', zs, earlier, later, xs_eq, there, rest_eq⟩ := flatMap_eq_append_cons f deeper
      refine ⟨x :: ws, x', zs, earlier, later, ?_, there, ?_⟩
      · rw [xs_eq, List.cons_append]
      · rw [before_eq, rest_eq, List.flatMap_cons, List.append_assoc]
    · exact ⟨[], x, xs, before, rest, rfl, here, rfl⟩

end FilterQuery
