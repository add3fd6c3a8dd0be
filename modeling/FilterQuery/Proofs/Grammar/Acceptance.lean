import FilterQuery.Proofs.Grammar.Completeness
import FilterQuery.Proofs.Grammar.Soundness
import FilterQuery.Query

/-!
# What is accepted

The reader and the grammar agree on every text, on its tree, and on nothing else. The limits enter
in two places: the length of the text is compared before it is read, and the nesting of groups is
the depth of the derivation.
-/

namespace FilterQuery.Grammar

theorem read_eq_ok_iff {limits : Limits} {text : List Char} {t : Tree} :
    Tree.read limits text = .ok t ↔ Body limits.maxDepth text t :=
  ⟨body_of_read, read_of_body⟩

/-- **Reading is what the grammar derives**, with the limits and the empty text. -/
theorem parse_eq_ok_iff {limits : Limits} {text : String} {t : Tree} :
    Tree.parse limits text = .ok t ↔ Denotes limits text t := by
  unfold Tree.parse Denotes
  split
  · next long =>
    constructor
    · intro h
      cases h
    · intro ⟨fits, _⟩
      omega
  · next fits =>
    split
    · next empty =>
      subst empty
      constructor
      · intro h
        cases h
        exact ⟨by omega, .inl ⟨rfl, rfl⟩⟩
      · intro given
        rcases given with ⟨_, ⟨_, rfl⟩ | body⟩
        · rfl
        · exact absurd rfl body.ne_nil
    · next some_char =>
      rw [read_eq_ok_iff]
      exact ⟨fun body => ⟨by omega, .inr body⟩,
        fun ⟨_, h⟩ => h.resolve_left fun ⟨empty, _⟩ => some_char empty⟩

/-- A query that is read keeps its text beside the tree that the text denotes. -/
theorem query_eq_ok_iff {limits : Limits} {text : String} {q : Query} :
    Query.parse limits text = .ok q ↔ q.text = text ∧ Denotes limits text q.root := by
  rw [← parse_eq_ok_iff]
  unfold Query.parse
  cases Tree.parse limits text with
  | error fault => simp
  | ok root =>
    cases q
    simp [eq_comm]

/-- A tree is read from a text exactly when the text denotes it. -/
theorem exists_query_iff {limits : Limits} {text : String} {t : Tree} :
    (∃ q, Query.parse limits text = .ok q ∧ q.root = t) ↔ Denotes limits text t := by
  constructor
  · intro given
    obtain ⟨q, read, rfl⟩ := given
    exact (query_eq_ok_iff.mp read).2
  · intro denotes
    exact ⟨⟨text, t⟩, query_eq_ok_iff.mpr ⟨rfl, denotes⟩, rfl⟩

/-- **Acceptance**: a query is accepted with a tree exactly when its text is short enough and is
    empty, for the tree without clauses, or derives as a body of that tree within the nesting limit;
    every other text is refused as malformed. -/
theorem accepted_iff_denoted (limits : Limits) (text : String) :
    (∀ t, (∃ q, Query.parse limits text = .ok q ∧ q.root = t) ↔ Denotes limits text t) ∧
    ((¬ ∃ t, Denotes limits text t) ↔
      ∃ fault, Query.parse limits text = .error (.malformed fault)) := by
  refine ⟨fun t => exists_query_iff, ?_, ?_⟩
  · intro none_denoted
    cases read : Query.parse limits text with
    | ok q => exact absurd ⟨q.root, (query_eq_ok_iff.mp read).2⟩ none_denoted
    | error e =>
      unfold Query.parse at read
      split at read
      · cases read
      · next fault _ =>
        cases read
        exact ⟨fault, rfl⟩
  · intro given denoted
    obtain ⟨fault, refused⟩ := given
    obtain ⟨t, denotes⟩ := denoted
    have read : Query.parse limits text = .ok ⟨text, t⟩ := query_eq_ok_iff.mpr ⟨rfl, denotes⟩
    rw [refused] at read
    cases read

end FilterQuery.Grammar
