import FilterQuery.Proofs.Clause.Domain
import FilterQuery.Proofs.Clause.Spelling
import FilterQuery.Proofs.Grammar

/-!
# The grammar of clauses

What the text of a clause means, without a reader. A clause is made of

* negation marks;
* components between `.`, and directives, each behind a `:`. They hold a character and no mark of a
  clause;
* nothing more, or a COMPARISON: negation marks, the longest symbol that fits, and values between
  `,`.

From the components a last `not` is taken off, and from what is left a last keyword (`Path`). The
rest is the path of the segment, and has to be some component. A keyword names the operator in place
of the symbol, so it goes with no symbol or with `=` alone. The segment is negated if its negation
marks, in both places, and its `not` are odd in number.

`parse_iff_clause` compares the reader of clauses with this grammar.
-/

namespace FilterQuery.Grammar

open Segment (clauseMarks endingComponents pathText)

/-! ## 1. Derivations -/

/-- The end of a clause, with its negation marks, the operator of its symbol and its values. -/
inductive Comparison : List Char → Nat → Option Operator → List String → Prop where
  | absent : Comparison [] 0 none []
  | symbol (marks : Nat) {op : Operator} {symbol : String} {values : List Char}
      (spelled : op.symbol? = some symbol)
      (longest : ∀ (other : Operator) (longer : String), other.symbol? = some longer →
        longer.toList <+: symbol.toList ++ values → longer.length ≤ symbol.length) :
      Comparison (List.replicate marks '!' ++ (symbol.toList ++ values)) marks (some op)
        ((values.splitOn ',').map String.ofList)

/-- What components keep as a path, if a last `not` is taken off and then a last keyword. -/
structure Path (components path : List String) (keyword : Option Operator) (negation : Bool) :
    Prop where
  components_eq : components = path ++ endingComponents keyword negation
  negation_iff : negation = true ↔ components.getLast? = some Operator.negationWord
  /-- A keyword at the end of what is kept would have been taken off. -/
  no_keyword : keyword = none → ∀ op : Operator, path.getLast? ≠ some op.keyword

/-- A text of a clause and the segment that it says. -/
inductive Clause : List Char → Segment → Prop where
  | parts (marks : Nat) {components directives path values : List String}
      {keyword operator : Option Operator} {negation : Bool} {tail : List Char} {turns : Nat}
      (words : ∀ w ∈ components ++ directives, w ≠ "" ∧ ∀ mark ∈ clauseMarks, mark ∉ w.toList)
      (kept : Path components path keyword negation) (some_component : path ≠ [])
      (comparison : Comparison tail turns operator values)
      (one_operator : keyword ≠ none → operator = none ∨ operator = some .iexact) :
      Clause
        (List.replicate marks '!' ++
          (pathText components ++ directives.flatMap (fun d => ':' :: d.toList) ++ tail))
        { path, directives, values
          operator := (keyword.or operator).getD .iexact
          negated := (marks + turns + negation.toNat) % 2 == 1 }

/-! ## 2. Comparisons -/

/-- A symbol is one character, or one character and `=`. -/
theorem toList_symbol {op : Operator} {symbol : String} (h : op.symbol? = some symbol) :
    ∃ c, symbol.toList = c :: if op.allowsEquals then ['='] else [] := by
  cases op <;> cases h <;> exact ⟨_, rfl⟩

theorem length_symbol {op : Operator} {symbol : String} (h : op.symbol? = some symbol) :
    symbol.length = if op.allowsEquals then 2 else 1 := by
  cases op <;> cases h <;> rfl

/-- A symbol of one character is the start of a longer one. -/
theorem exists_longer {op : Operator} {symbol : String} (h : op.symbol? = some symbol)
    (strict : op.allowsEquals = false) :
    ∃ (other : Operator) (longer : String), other.symbol? = some longer ∧
      longer.toList = symbol.toList ++ ['='] ∧ symbol.length < longer.length := by
  cases op with
  | iexact =>
    cases h
    exact ⟨.exact, "==", rfl, rfl, by decide⟩
  | lessThan =>
    cases h
    exact ⟨.lessOrEqual, "<=", rfl, rfl, by decide⟩
  | greaterThan =>
    cases h
    exact ⟨.greaterOrEqual, ">=", rfl, rfl, by decide⟩
  | exact | lessOrEqual | greaterOrEqual => cases strict
  | regex | isNull | oneOf => cases h

/-- **The longest symbol** is the one with which no `=` behind it would go on. -/
theorem longest_iff {op : Operator} {symbol : String} (spelled : op.symbol? = some symbol)
    (rest : List Char) :
    (∀ (other : Operator) (longer : String), other.symbol? = some longer →
      longer.toList <+: symbol.toList ++ rest → longer.length ≤ symbol.length) ↔
    (rest.head? = some '=' → op.allowsEquals = true) := by
  constructor
  · intro longest equals
    cases strict : op.allowsEquals with
    | true => rfl
    | false =>
      obtain ⟨other, longer, spelled', longer_eq, more⟩ := exists_longer spelled strict
      obtain ⟨others, rfl⟩ := List.head?_eq_some_iff.mp equals
      have starts : longer.toList <+: symbol.toList ++ '=' :: others :=
        ⟨others, by rw [longer_eq, List.append_assoc, List.singleton_append]⟩
      exact absurd (longest other longer spelled' starts) (Nat.not_le_of_lt more)
  · intro plain other longer spelled' starts
    rw [length_symbol spelled, length_symbol spelled']
    cases double : other.allowsEquals with
    | false =>
      rw [if_neg Bool.false_ne_true]
      split <;> decide
    | true =>
      -- a symbol of two characters fits only where the shorter one is followed by `=`
      cases strict : op.allowsEquals with
      | true => exact Nat.le_refl 2
      | false =>
        obtain ⟨c, symbol_eq⟩ := toList_symbol spelled
        obtain ⟨d, longer_eq⟩ := toList_symbol spelled'
        rw [symbol_eq, longer_eq, strict, double] at starts
        obtain ⟨behind, same⟩ := starts
        obtain ⟨-, rest_eq⟩ := List.cons.inj same
        have equals : rest.head? = some '=' := (congrArg List.head? rest_eq).symm
        have allowed := plain equals
        rw [strict] at allowed
        cases allowed

/-- The comparison that the reader makes of a derived one. -/
theorem readComparison_of_comparison {tail : List Char} {marks : Nat} {operator : Option Operator}
    {values : List String} (h : Comparison tail marks operator values) :
    Segment.readComparison tail =
      .ok { marks, operator := operator.getD .standard, values } := by
  cases h with
  | absent => rfl
  | @symbol marks op symbol rest spelled longest =>
    obtain ⟨c, others, start, _, no_mark⟩ := Segment.symbol_start spelled
    have plain : (symbol.toList ++ rest).head? ≠ some '!' := by
      rw [start]
      exact fun equal => no_mark (Option.some.inj equal)
    obtain ⟨counted, behind⟩ := Segment.marks_of_replicate marks plain
    have found : Segment.readSymbol (symbol.toList ++ rest) = some (op, rest) :=
      Segment.readSymbol_eq_some_iff.mpr
        ⟨symbol, spelled, rfl, (longest_iff spelled rest).mp longest⟩
    unfold Segment.readComparison
    split
    · next empty => simp [start] at empty
    · rw [behind, found, counted]
      rfl

/-- A comparison that the reader takes is derived. -/
theorem comparison_of_readComparison {tail : List Char} {comparison : Segment.Comparison}
    (h : Segment.readComparison tail = .ok comparison) :
    ∃ operator, Comparison tail comparison.marks operator comparison.values ∧
      comparison.operator = operator.getD .standard ∧
      (comparison.operator = .standard → operator = none ∨ operator = some .iexact) := by
  rcases Segment.readComparison_cases h with ⟨rfl, rfl⟩ | ⟨rest, found, marks, values⟩
  · exact ⟨none, .absent, rfl, fun _ => .inl rfl⟩
  · obtain ⟨symbol, spelled, behind, plain⟩ := Segment.readSymbol_eq_some_iff.mp found
    refine ⟨some comparison.operator, ?_, rfl, fun standard => .inr (congrArg some standard)⟩
    have derived := Comparison.symbol (Segment.markCount tail) spelled
      ((longest_iff spelled rest).mpr plain)
    rw [← behind, Segment.replicate_append_afterMarks] at derived
    rw [marks, values]
    exact derived

/-- A comparison starts with a comparison mark. -/
theorem Comparison.start {tail : List Char} {marks : Nat} {operator : Option Operator}
    {values : List String} (h : Comparison tail marks operator values) :
    ∀ c ∈ tail.head?, isComparisonMark c = true := by
  intro c hc
  cases h with
  | absent => cases hc
  | @symbol marks op symbol rest spelled longest =>
    obtain ⟨d, others, start, mark, _⟩ := Segment.symbol_start spelled
    rw [start] at hc
    cases marks with
    | zero =>
      cases hc
      exact mark
    | succ marks =>
      cases hc
      rfl

/-! ## 3. Paths -/

theorem isWord_endingComponents {keyword : Option Operator} {negation : Bool} :
    ∀ w ∈ endingComponents keyword negation, Segment.IsWord w := by
  unfold endingComponents
  refine List.forall_mem_append.mpr ⟨fun w hw => ?_, fun w hw => ?_⟩
  · obtain ⟨op, -, rfl⟩ := List.mem_map.mp hw
    exact Segment.isWord_keyword op
  · split at hw
    · rw [List.mem_singleton.mp hw]
      exact Segment.isWord_negationWord
    · cases hw

theorem getLast?_keyword {path : List String} {op : Operator} :
    (path ++ [op.keyword]).getLast? ≠ some Operator.negationWord := by
  rw [List.getLast?_concat, ne_eq, Option.some.injEq]
  exact Segment.keyword_ne_negationWord op

/-- The reader takes off what a path does not keep. -/
theorem Path.dropped {components path : List String} {keyword : Option Operator} {negation : Bool}
    (h : Path components path keyword negation) :
    Segment.dropNegation components = (path ++ keyword.toList.map Operator.keyword, negation) ∧
      Segment.dropKeyword (path ++ keyword.toList.map Operator.keyword) = (path, keyword) := by
  obtain ⟨rfl, negation_iff, no_keyword⟩ := h
  constructor
  · unfold endingComponents at negation_iff ⊢
    cases negation with
    | true =>
      rw [if_pos rfl, ← List.append_assoc]
      exact Segment.dropNegation_concat _
    | false =>
      rw [if_neg Bool.false_ne_true, List.append_nil] at negation_iff ⊢
      exact Segment.dropNegation_of_ne fun last => Bool.false_ne_true (negation_iff.mpr last)
  · cases keyword with
    | some op => exact Segment.dropKeyword_concat path op
    | none =>
      rw [Option.toList_none, List.map_nil, List.append_nil]
      exact Segment.dropKeyword_of_none
        ((Segment.bind_ofKeyword?_eq_none_iff path).mpr (no_keyword rfl))

/-- What the reader keeps of a path is kept. -/
theorem path_of_takenOff {marks : Nat} {head : Segment.Head} {comparison : Segment.Comparison}
    {s : Segment} {keyword : Option Operator} {negation : Bool}
    (h : Segment.TakenOff marks head comparison s keyword negation) :
    Path head.path s.path keyword negation := by
  refine ⟨h.path_eq, ?_, ?_⟩
  · rw [h.path_eq, endingComponents]
    cases negation with
    | true => simp
    | false =>
      refine ⟨nofun, fun last => ?_⟩
      rw [if_neg Bool.false_ne_true, List.append_nil] at last
      cases keyword with
      | some op => exact absurd last getLast?_keyword
      | none =>
        rw [Option.toList_none, List.map_nil, List.append_nil] at last
        exact absurd last (h.no_negation rfl rfl)
  · intro none_taken
    exact (Segment.bind_ofKeyword?_eq_none_iff s.path).mp (h.no_keyword none_taken)

/-! ## 4. Clauses -/

/-- **The reader accepts every clause of the grammar**, with its segment. -/
theorem read_of_clause {w : List Char} {s : Segment} (h : Clause w s) :
    Segment.read w = .ok s := by
  obtain @⟨marks, components, directives, path, values, keyword, operator, negation, tail, turns,
    words, kept, some_component, comparison, one_operator⟩ := h
  have unmarked := fun w hw => (Segment.isWord_iff_unmarked w).mpr (words w hw)
  obtain ⟨path_words, directive_words⟩ := List.forall_mem_append.mp unmarked
  have components_ne : components ≠ [] := by
    rw [kept.components_eq]
    exact List.append_ne_nil_of_left_ne_nil some_component _
  obtain ⟨without_not, without_keyword⟩ := kept.dropped
  have standard : keyword = none ∨ operator.getD .standard = .standard := by
    cases keyword with
    | none => exact .inl rfl
    | some op =>
      rcases one_operator nofun with rfl | rfl
      · exact .inr rfl
      · exact .inr rfl
  rw [← Segment.Head.text_eq { path := components, directives },
    Segment.read_written marks components_ne path_words directive_words comparison.start,
    readComparison_of_comparison comparison]
  refine (Segment.assemble_eq without_not without_keyword standard some_component).trans ?_
  cases keyword <;> rfl

/-- **The reader accepts nothing but clauses of the grammar**, and says their segments. -/
theorem clause_of_read {w : List Char} {s : Segment} (h : Segment.read w = .ok s) :
    Clause w s := by
  have readable := Segment.readable_of_read h
  obtain ⟨marks, head, comparison, tail, keyword, negation, rfl, read_tail, taken⟩ :=
    Segment.text_of_read h
  obtain ⟨operator, derived, operator_eq, standard⟩ := comparison_of_readComparison read_tail
  have unmarked : ∀ w ∈ head.path ++ head.directives, Segment.IsWord w := by
    rw [taken.path_eq, ← taken.directives_eq]
    exact List.forall_mem_append.mpr ⟨List.forall_mem_append.mpr
      ⟨readable.path_words, isWord_endingComponents⟩, readable.directive_words⟩
  have clause := Clause.parts marks
    (fun w hw => (Segment.isWord_iff_unmarked w).mp (unmarked w hw))
    (path_of_takenOff taken) taken.path_ne_nil derived (fun given => standard (taken.standard given))
  have said : s =
      { path := s.path, directives := head.directives, values := comparison.values
        operator := (keyword.or operator).getD .iexact
        negated := (marks + comparison.marks + negation.toNat) % 2 == 1 } := by
    have operator_said : (keyword.or operator).getD .iexact = s.operator := by
      rw [taken.operator_eq, operator_eq]
      cases keyword <;> rfl
    rw [operator_said, ← taken.negated_eq, ← taken.directives_eq, ← taken.values_eq]
  rw [said, Segment.Head.text_eq]
  exact clause

/-- **The clauses that are accepted**: a text is read as a segment exactly if the grammar derives the
    segment from it, and every other text is refused as a malformed clause. -/
theorem parse_iff_clause (text : String) :
    (∀ s, Segment.parse text = .ok s ↔ Clause text.toList s) ∧
    ((¬ ∃ s, Clause text.toList s) ↔
      ∃ fault, Segment.parse text = .error (.badClause text fault)) := by
  have accepted : ∀ s, Segment.parse text = .ok s ↔ Clause text.toList s := by
    intro s
    rw [Segment.parse_eq_ok_iff]
    exact ⟨clause_of_read, read_of_clause⟩
  refine ⟨accepted, ?_⟩
  simp only [← accepted]
  unfold Segment.parse
  cases Segment.read text.toList with
  | error fault => simp
  | ok s => simp

end FilterQuery.Grammar
