import FilterQuery.Proofs.Tree.RoundTrip

/-!
# Queries from queries

A program that holds the texts of two queries can build the text of a third one around them, without
reading either. Whatever stands inside them, the tree is the one that is meant:

| text                   | tree                                      |
|------------------------|-------------------------------------------|
| `(t)`, `!(!(t))`       | the tree of `t`                           |
| `!(t)`                 | its opposite                              |
| `!t`, for a clause `t` | its opposite                              |
| `t&(u)`, `(t)&(u)`     | both trees, joined by `&`; and so for `;` |

* `Segment.read_marked` -- one more negation mark turns a clause into its opposite;
* `Tree.negate_negate_of_normal` -- two negations cancel over a normal tree, and texts build no
  others;
* `Grammar.operand_of_mark` -- a derivation without grouping marks is that of a single clause, which
  takes one more mark;
* `Query.means_composed` -- the table above, with room for two groups more than the parts need.
-/

namespace FilterQuery

open Grammar

/-! ## 1. One more negation mark -/

namespace Segment

theorem odd_succ (n : Nat) : ((n + 1) % 2 == 1) = !(n % 2 == 1) := by
  rcases Nat.mod_two_eq_zero_or_one n with even | odd
  · have next : (n + 1) % 2 = 1 := by omega
    rw [even, next]
    rfl
  · have next : (n + 1) % 2 = 0 := by omega
    rw [odd, next]
    rfl

theorem assemble_succ {marks : Nat} {head : Head} {comparison : Comparison} {s : Segment}
    (h : assemble marks head comparison = .ok s) :
    assemble (marks + 1) head comparison = .ok s.negate := by
  unfold assemble at h ⊢
  generalize dropNegation head.path = affirmed at h ⊢
  obtain ⟨affirmed, negation⟩ := affirmed
  simp only at h ⊢
  split at h
  · cases h
  · next allowed =>
    split at h
    · cases h
    · next some_component =>
      cases h
      rw [if_neg allowed, if_neg some_component, Nat.add_right_comm marks 1,
        Nat.add_right_comm _ 1, odd_succ]
      rfl

/-- **A negation mark in front of a clause turns it into its opposite**, however many there are. -/
theorem read_marked {w : List Char} {s : Segment} (h : read w = .ok s) :
    read ('!' :: w) = .ok s.negate := by
  obtain ⟨head, comparison, read_head, read_comparison, assembled⟩ := read_eq_ok h
  have counted : markCount ('!' :: w) = markCount w + 1 := rfl
  have body : afterMarks ('!' :: w) = afterMarks w := rfl
  unfold read
  rw [counted, body]
  exact bind_eq_ok.mpr ⟨head, read_head, bind_eq_ok.mpr
    ⟨comparison, read_comparison, assemble_succ assembled⟩⟩

end Segment

/-! ## 2. Two negations -/

/-- **Two negations cancel** over a normal tree. -/
theorem Tree.negate_negate_of_normal {t : Tree} (h : t.Normal) : t.negate.negate = t := by
  refine negate_negate_of_root ?_
  rintro u rfl
  -- what is negated as a group is two joined operands
  obtain ⟨joined, -⟩ := h
  cases u with
  | binary => rfl
  | noop | leaf | not => cases joined

/-! ## 3. Derivations -/

namespace Grammar

variable {depth room : Nat} {w : List Char} {t : Tree}

/-- A body in parentheses. -/
theorem Body.grouped (body : Body depth w t) (fits : depth + 1 ≤ room) :
    Operand room ('(' :: w ++ [')']) t :=
  Operand.mono (.group body) fits

/-- A body in parentheses behind a negation mark. -/
theorem Body.negated (body : Body depth w t) (fits : depth + 1 ≤ room) :
    Operand room ('!' :: '(' :: w ++ [')']) t.negate :=
  Operand.mono (.negatedGroup body) fits

/-- A body in two groups, both behind a negation mark. -/
theorem Body.twice_negated (body : Body depth w t) (fits : depth + 2 ≤ room) :
    Operand room ('!' :: '(' :: ('!' :: '(' :: w ++ [')']) ++ [')']) t := by
  have inner : Operand (depth + 1) ('!' :: '(' :: w ++ [')']) t.negate :=
    body.negated (Nat.le_refl _)
  have outer := (Body.single inner).negated fits
  rw [Tree.negate_negate_of_normal (Tree.normal_of_body body).1] at outer
  exact outer

/-- **A body without grouping marks is one clause**, which takes one more negation mark. -/
theorem operand_of_mark (body : Body depth w t) (ungrouped : ∀ c ∈ w, isGroupingMark c = false) :
    Operand depth ('!' :: w) t.negate := by
  have mark : ∀ {c : Char}, isGroupingMark c = true → c ∉ w := by
    intro c grouping inside
    rw [ungrouped c inside] at grouping
    cases grouping
  cases body with
  | single operand =>
    cases operand with
    | clause some_char _ parsed =>
      have turned := Segment.read_marked (Segment.parse_ofList_eq_ok_iff.mp parsed)
      exact .clause (List.cons_ne_nil _ _) (List.forall_mem_cons.mpr ⟨rfl, ungrouped⟩)
        (Segment.parse_ofList_eq_ok_iff.mpr turned)
    | group => exact absurd (by simp) (mark (c := '(') rfl)
    | negatedGroup => exact absurd (by simp) (mark (c := '(') rfl)
  | join body connective operand =>
    exact absurd (by simp) (mark (isGroupingMark_connective connective))

end Grammar

/-! ## 4. Texts -/

namespace Query

/-- What a text means if so many groups may be open at once: it is read as a tree under every limit
    on its length that it fits. -/
def Means (maxDepth : Nat) (text : String) (t : Tree) : Prop :=
  ∀ maxLength, text.utf8ByteSize ≤ maxLength →
    Query.parse { maxDepth, maxLength } text = .ok { text, root := t }

theorem means_of_body {maxDepth : Nat} {text : String} {t : Tree}
    (body : Body maxDepth text.toList t) : Means maxDepth text t :=
  fun _ fits => query_eq_ok_iff.mpr ⟨rfl, fits, .inr body⟩

theorem body_of_parse {limits : Limits} {text : String} {q : Query}
    (h : Query.parse limits text = .ok q) (some_char : text ≠ "") :
    Body limits.maxDepth text.toList q.root := by
  obtain ⟨_, _, ⟨empty, _⟩ | body⟩ := query_eq_ok_iff.mp h
  · exact absurd empty some_char
  · exact body

/-- A group behind a text that is read as a tree, and a connective. -/
theorem means_joined {maxDepth depth : Nat} {v u : String} {t₁ t₂ : Tree}
    (body : Body maxDepth v.toList t₁) (connective : Connective) (inside : Body depth u.toList t₂)
    (fits : depth + 1 ≤ maxDepth) :
    Means maxDepth (v ++ connective.mark.toString ++ "(" ++ u ++ ")")
      (.binary connective t₁ t₂) := by
  have spelled : (v ++ connective.mark.toString ++ "(" ++ u ++ ")").toList =
      v.toList ++ connective.mark :: ('(' :: u.toList ++ [')']) := by
    simp
  refine means_of_body ?_
  rw [spelled]
  exact .join body connective (inside.grouped fits)

/-- **Queries from queries**: where two texts are read as trees, the texts that are built around
    them are read as the trees that are built in the same way. -/
theorem means_composed {here there : Limits} {t u : String} {q r : Query}
    (read_t : Query.parse here t = .ok q) (read_u : Query.parse there u = .ok r)
    (some_t : t ≠ "") (some_u : u ≠ "") {maxDepth : Nat}
    (room_t : here.maxDepth + 2 ≤ maxDepth) (room_u : there.maxDepth + 2 ≤ maxDepth) :
    Means maxDepth ("(" ++ t ++ ")") q.root ∧
    Means maxDepth ("!(" ++ t ++ ")") q.root.negate ∧
    Means maxDepth ("!(!(" ++ t ++ "))") q.root ∧
    (∀ connective : Connective,
      Means maxDepth (t ++ connective.mark.toString ++ "(" ++ u ++ ")")
        (.binary connective q.root r.root) ∧
      Means maxDepth ("(" ++ t ++ ")" ++ connective.mark.toString ++ "(" ++ u ++ ")")
        (.binary connective q.root r.root)) ∧
    ((∀ c ∈ t.toList, isGroupingMark c = false) →
      Means maxDepth ("!" ++ t) q.root.negate) := by
  have body_t := body_of_parse read_t some_t
  have body_u := body_of_parse read_u some_u
  have deep : here.maxDepth ≤ maxDepth := Nat.le_trans (Nat.le_add_right _ 2) room_t
  have grouped : Body maxDepth ("(" ++ t ++ ")").toList q.root := by
    have spelled : ("(" ++ t ++ ")").toList = '(' :: t.toList ++ [')'] := by simp
    rw [spelled]
    exact .single (body_t.grouped (Nat.le_of_succ_le room_t))
  refine ⟨means_of_body grouped, ?_, ?_, fun connective => ⟨?_, ?_⟩, fun ungrouped => ?_⟩
  · have spelled : ("!(" ++ t ++ ")").toList = '!' :: '(' :: t.toList ++ [')'] := by simp
    refine means_of_body ?_
    rw [spelled]
    exact .single (body_t.negated (Nat.le_of_succ_le room_t))
  · have spelled : ("!(!(" ++ t ++ "))").toList =
        '!' :: '(' :: ('!' :: '(' :: t.toList ++ [')']) ++ [')'] := by simp
    refine means_of_body ?_
    rw [spelled]
    exact .single (body_t.twice_negated room_t)
  · exact means_joined (body_t.mono deep) connective body_u (Nat.le_of_succ_le room_u)
  · exact means_joined grouped connective body_u (Nat.le_of_succ_le room_u)
  · have spelled : ("!" ++ t).toList = '!' :: t.toList := by simp
    refine means_of_body ?_
    rw [spelled]
    exact .single ((operand_of_mark body_t ungrouped).mono deep)

/-- A clause full of marks, in front of a text that starts with a group and ends in a negated
one. -/
theorem means_composed_marks :
    ∃ q r : Query, Query.parse { maxDepth := 0 } "!a.not!<=!b:=c" = .ok q ∧
      Query.parse { maxDepth := 1 } "(x;y)&!(!z)" = .ok r ∧
      Query.parse { maxDepth := 3, maxLength := 28 } "!a.not!<=!b:=c;((x;y)&!(!z))" =
        .ok ⟨"!a.not!<=!b:=c;((x;y)&!(!z))", .binary .either q.root r.root⟩ ∧
      Query.parse { maxDepth := 3 } "!(!(!a.not!<=!b:=c))" =
        .ok ⟨"!(!(!a.not!<=!b:=c))", q.root⟩ ∧
      Query.parse { maxDepth := 3 } "!!a.not!<=!b:=c" =
        .ok ⟨"!!a.not!<=!b:=c", q.root.negate⟩ := by
  have read_t : Query.parse { maxDepth := 0 } "!a.not!<=!b:=c" = .ok
      { text := "!a.not!<=!b:=c"
        root := .leaf { path := ["a"], operator := .lessOrEqual, negated := true,
                        values := ["!b:=c"] } } := by
    rfl
  have read_u : Query.parse { maxDepth := 1 } "(x;y)&!(!z)" = .ok
      { text := "(x;y)&!(!z)"
        root := .binary .both (.binary .either (.leaf { path := ["x"] }) (.leaf { path := ["y"] }))
          (.leaf { path := ["z"] }) } := by
    rfl
  obtain ⟨-, -, twice, joined, marked⟩ := @means_composed _ _ _ _ _ _ read_t read_u (by decide)
    (by decide) 3 (by decide) (by decide)
  refine ⟨_, _, read_t, read_u, (joined .either).1 28 (by decide), twice 8192 (by decide), ?_⟩
  exact marked (by simp [isGroupingMark]) 8192 (by decide)

end Query

end FilterQuery
