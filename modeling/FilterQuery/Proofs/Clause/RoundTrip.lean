import FilterQuery.Proofs.Clause.Readable

/-!
# Canonical clauses read back

The canonical text of a readable segment says that segment again. The text consists of negation
marks, a head and a comparison; `read_written` reads any text of this shape part by part, and what
is left is that taking off the reserved components undoes the way in which they were written
(`assemble_written`).
-/

namespace FilterQuery.Segment

/-! ## 1. Reading by parts -/

theorem head_text_unmarked {head : Head} (path_words : ∀ p ∈ head.path, IsWord p)
    (directive_words : ∀ d ∈ head.directives, IsWord d) :
    ∀ c ∈ head.text, isComparisonMark c = false := by
  intro c hc
  rcases mem_of_mem_intercalate hc with ⟨piece, member, hc⟩ | colon
  · rcases List.mem_cons.mp member with rfl | member
    · rcases mem_of_mem_intercalate hc with ⟨_, component, hc⟩ | dot
      · obtain ⟨p, hp, rfl⟩ := List.mem_map.mp component
        exact (isWord_iff.mp (path_words p hp)).2 c hc
      · rw [List.mem_singleton.mp dot]
        decide
    · obtain ⟨d, hd, rfl⟩ := List.mem_map.mp member
      exact (isWord_iff.mp (directive_words d hd)).2 c hc
  · rw [List.mem_singleton.mp colon]
    decide

/-- The negation marks in front of a text that starts with none. -/
theorem marks_of_replicate (marks : Nat) {body : List Char} (plain : body.head? ≠ some '!') :
    markCount (List.replicate marks '!' ++ body) = marks ∧
      afterMarks (List.replicate marks '!' ++ body) = body := by
  have all_marks : ∀ c ∈ List.replicate marks '!', (c == '!') = true := by
    intro c hc
    rw [List.eq_of_mem_replicate hc]
    decide
  unfold markCount afterMarks
  rw [List.takeWhile_append_of_pos all_marks, List.dropWhile_append_of_pos all_marks]
  cases body with
  | nil => simp
  | cons c rest =>
    have differs : c ≠ '!' := by
      intro equal
      subst equal
      exact plain rfl
    simp [differs]

/-- **A clause is read part by part**: negation marks, a head of words, and what follows from the
    first comparison mark on. -/
theorem read_written {head : Head} {tail : List Char} (marks : Nat) (some_component : head.path ≠ [])
    (path_words : ∀ p ∈ head.path, IsWord p) (directive_words : ∀ d ∈ head.directives, IsWord d)
    (tail_start : ∀ c ∈ tail.head?, isComparisonMark c = true) :
    read (List.replicate marks '!' ++ (head.text ++ tail)) =
      readComparison tail >>= assemble marks head := by
  have unmarked := head_text_unmarked path_words directive_words
  have components : ∀ p ∈ head.path, IsName p := fun p hp => (isWord_iff.mp (path_words p hp)).1
  have behind : ∀ d ∈ head.directives, IsName d :=
    fun d hd => (isWord_iff.mp (directive_words d hd)).1
  have read_head := (readHead_eq_ok_iff _ head).mpr ⟨rfl, some_component, components, behind⟩
  have plain : (head.text ++ tail).head? ≠ some '!' := by
    have filled : head.text ≠ [] := by
      rw [Head.text_eq]
      exact List.append_ne_nil_of_left_ne_nil (pathText_ne_nil some_component components) _
    obtain ⟨c, rest, start⟩ := List.exists_cons_of_ne_nil filled
    have first := unmarked c (by rw [start]; exact List.mem_cons_self)
    rw [start, List.cons_append, List.head?_cons, ne_eq, Option.some.injEq]
    intro equal
    subst equal
    cases first
  obtain ⟨counted, body⟩ := marks_of_replicate marks plain
  have pos : ∀ c ∈ head.text, (!isComparisonMark c) = true := by
    intro c hc
    rw [unmarked c hc]
    rfl
  have tail_taken : tail.takeWhile (fun c => !isComparisonMark c) = [] ∧
      tail.dropWhile (fun c => !isComparisonMark c) = tail := by
    cases tail with
    | nil => exact ⟨rfl, rfl⟩
    | cons c rest => simp [tail_start c rfl]
  unfold read
  simp only [body, counted, List.takeWhile_append_of_pos pos, List.dropWhile_append_of_pos pos,
    tail_taken.1, tail_taken.2, List.append_nil, read_head]
  rfl

/-! ## 2. The parts of the canonical text -/

/-- The head of the canonical text, with the components that keep the path and the operator. -/
def writtenHead (s : Segment) : Head where
  path := s.path ++ (if s.isNotEscaped then [Operator.negationWord] else []) ++
    (if s.usesKeyword then [s.operator.keyword] else [])
  directives := s.directives

/-- The number of negation marks of the canonical text. -/
def writtenMarks (s : Segment) : Nat :=
  if s.negated != s.isNotEscaped then 1 else 0

/-- The comparison of the canonical text. -/
def writtenComparison (s : Segment) : List Char :=
  if s.values.isEmpty then [] else s.writtenSymbol.toList ++ valuesText s.values

/-- **The canonical text, part by part.** -/
theorem toList_render {s : Segment} (some_component : s.path ≠ []) :
    s.render.toList =
      List.replicate s.writtenMarks '!' ++ (s.writtenHead.text ++ s.writtenComparison) := by
  have marks : (if s.negated != s.isNotEscaped then "!" else "").toList =
      List.replicate s.writtenMarks '!' := by
    unfold writtenMarks
    split <;> rfl
  have path : (".".intercalate s.path).toList = pathText s.path := by
    rw [String.toList_intercalate]
    rfl
  have escape : pathText s.path ++ (if s.isNotEscaped then ".not" else "").toList =
      pathText (s.path ++ if s.isNotEscaped then [Operator.negationWord] else []) := by
    split
    · rw [pathText_concat some_component]
      rfl
    · rw [String.toList_empty, List.append_nil, List.append_nil]
  have keyword (before : List String) (filled : before ≠ []) :
      pathText before ++ (if s.usesKeyword then "." ++ s.operator.keyword else "").toList =
        pathText (before ++ if s.usesKeyword then [s.operator.keyword] else []) := by
    split
    · rw [pathText_concat filled, String.toList_append]
      rfl
    · rw [String.toList_empty, List.append_nil, List.append_nil]
  have directives : (String.join (s.directives.map (":" ++ ·))).toList =
      s.directives.flatMap (fun d => ':' :: d.toList) := by
    rw [String.toList_join, List.flatMap_map]
    congr 1
    funext d
    rw [String.toList_append]
    rfl
  have comparison : (if s.values.isEmpty then ""
      else s.writtenSymbol ++ ",".intercalate s.values).toList = s.writtenComparison := by
    unfold writtenComparison
    split
    · rfl
    · rw [String.toList_append, String.toList_intercalate]
      rfl
  have written : pathText s.writtenHead.path =
      pathText s.path ++ (if s.isNotEscaped then ".not" else "").toList ++
        (if s.usesKeyword then "." ++ s.operator.keyword else "").toList := by
    rw [escape, keyword _ (List.append_ne_nil_of_left_ne_nil some_component _)]
    rfl
  unfold render
  rw [String.toList_append, String.toList_append, String.toList_append, String.toList_append,
    String.toList_append, marks, path, directives, comparison, Head.text_eq, written]
  simp only [List.append_assoc]
  rfl

/-! ## 3. Taking off what was put on -/

theorem isWord_keyword (op : Operator) : IsWord op.keyword := by
  have chars : op.keyword.toList.all isWordChar = true := by
    cases op <;> decide
  refine ⟨?_, List.all_eq_true.mp chars⟩
  cases op <;> decide

theorem isWord_negationWord : IsWord Operator.negationWord := by
  have chars : Operator.negationWord.toList.all isWordChar = true := by
    decide
  exact ⟨by decide, List.all_eq_true.mp chars⟩

theorem keyword_ne_negationWord (op : Operator) : op.keyword ≠ Operator.negationWord := by
  cases op <;> decide

theorem dropNegation_concat (path : List String) :
    dropNegation (path ++ [Operator.negationWord]) = (path, true) := by
  unfold dropNegation
  rw [List.getLast?_concat, if_pos rfl, List.dropLast_concat]

theorem dropNegation_of_ne {path : List String}
    (h : path.getLast? ≠ some Operator.negationWord) : dropNegation path = (path, false) := by
  unfold dropNegation
  rw [if_neg h]

theorem dropKeyword_concat (path : List String) (op : Operator) :
    dropKeyword (path ++ [op.keyword]) = (path, some op) := by
  unfold dropKeyword
  rw [List.getLast?_concat, List.dropLast_concat, Option.bind_some, Operator.ofKeyword?_keyword]

theorem dropKeyword_of_none {path : List String}
    (h : path.getLast?.bind Operator.ofKeyword? = none) : dropKeyword path = (path, none) := by
  unfold dropKeyword
  rw [h]

/-- A segment assembled from what is left of the path. -/
theorem assemble_eq {marks : Nat} {head : Head} {comparison : Comparison}
    {affirmed path : List String} {negation : Bool} {keyword : Option Operator}
    (without_not : dropNegation head.path = (affirmed, negation))
    (without_keyword : dropKeyword affirmed = (path, keyword))
    (allowed : keyword = none ∨ comparison.operator = .standard) (some_component : path ≠ []) :
    assemble marks head comparison = .ok {
      path
      operator := keyword.getD comparison.operator
      negated := (marks + comparison.marks + negation.toNat) % 2 == 1
      directives := head.directives
      values := comparison.values } := by
  unfold assemble
  simp only [without_not, without_keyword]
  have one_operator : (keyword.isSome && comparison.operator != .standard) = false := by
    rcases allowed with rfl | standard
    · rfl
    · rw [standard, bne_self_eq_false, Bool.and_false]
  rw [if_neg (by rw [one_operator]; exact Bool.false_ne_true), if_neg some_component]

/-! ## 4. The three spellings -/

/-- The operator whose symbol stands in front of the values. -/
def writtenOperator (s : Segment) : Operator :=
  if s.usesKeyword || s.values.isEmpty then .standard else s.operator

theorem getLast?_eq_lastComponent {s : Segment} (some_component : s.path ≠ []) :
    s.path.getLast? = some s.lastComponent := by
  obtain ⟨before, last, path⟩ := List.eq_nil_or_concat s.path |>.resolve_left some_component
  unfold lastComponent
  rw [path, List.concat_eq_append, List.getLast?_concat]
  rfl

/-- A `not` is escaped only where a symbol is written. -/
theorem symbolic_of_escaped {s : Segment} (h : s.isNotEscaped = true) :
    s.usesKeyword = false ∧ s.lastComponent = Operator.negationWord ∧ s.values ≠ [] := by
  have escaped := h
  unfold isNotEscaped at escaped
  simp only [Bool.and_eq_true, beq_iff_eq, Bool.not_eq_true'] at escaped
  obtain ⟨⟨last, some_value⟩, symbol⟩ := escaped
  refine ⟨?_, last, List.isEmpty_eq_false_iff.mp some_value⟩
  unfold usesKeyword
  rw [some_value, if_neg Bool.false_ne_true, h, Bool.not_true, Bool.and_false, Bool.or_false,
    Option.isNone_eq_false_iff]
  exact symbol

/-- A segment that is written without any help ends in a component that is not reserved. -/
theorem unreserved_of_plain {s : Segment} (unescaped : s.isNotEscaped = false)
    (symbolic : s.usesKeyword = false) :
    s.lastComponent ≠ Operator.negationWord ∧ Operator.ofKeyword? s.lastComponent = none := by
  have free : Operator.isReserved s.lastComponent = false := by
    unfold usesKeyword at symbolic
    rw [unescaped] at symbolic
    split at symbolic
    · exact (Bool.or_eq_false_iff.mp symbolic).2
    · rw [Bool.or_eq_false_iff, Bool.not_false, Bool.and_true] at symbolic
      exact symbolic.2
  unfold Operator.isReserved at free
  rw [Bool.or_eq_false_iff, beq_eq_false_iff_ne, Option.isSome_eq_false_iff,
    Option.isNone_iff_eq_none] at free
  exact free

/-- Without a keyword, the symbol in front of the values is that of the operator. -/
theorem writtenOperator_of_symbolic {s : Segment} (symbolic : s.usesKeyword = false) :
    s.writtenOperator = s.operator := by
  unfold writtenOperator
  rw [symbolic, Bool.false_or]
  split
  · next empty =>
    unfold usesKeyword at symbolic
    rw [if_pos empty, Bool.or_eq_false_iff, bne_eq_false_iff_eq] at symbolic
    exact symbolic.1.symm
  · rfl

theorem parity_of_writtenMarks (s : Segment) :
    ((s.writtenMarks + 0 + s.isNotEscaped.toNat) % 2 == 1) = s.negated := by
  unfold writtenMarks
  cases s.negated <;> cases s.isNotEscaped <;> rfl

theorem rebuilt {s : Segment} {op : Operator} {negated : Bool} (same_operator : op = s.operator)
    (same_sign : negated = s.negated) :
    ({ path := s.path, operator := op, negated, directives := s.directives,
       values := s.values } : Segment) = s := by
  subst same_operator same_sign
  rfl

/-- **The reserved components that were put on come off again.** -/
theorem assemble_written {s : Segment} (some_component : s.path ≠ []) :
    assemble s.writtenMarks s.writtenHead
      { marks := 0, operator := s.writtenOperator, values := s.values } = .ok s := by
  have last := getLast?_eq_lastComponent some_component
  have parity := parity_of_writtenMarks s
  cases escaped : s.isNotEscaped with
  | true =>
    -- `path.not.not`, with the leading mark turned over
    obtain ⟨symbolic, is_not, _⟩ := symbolic_of_escaped escaped
    have without_not : dropNegation s.writtenHead.path = (s.path, true) := by
      simp only [writtenHead, escaped, symbolic, if_true, Bool.false_eq_true, if_false,
        List.append_nil]
      exact dropNegation_concat s.path
    have kept : s.path.getLast?.bind Operator.ofKeyword? = none := by
      rw [last, is_not]
      decide
    rw [assemble_eq without_not (dropKeyword_of_none kept) (.inl rfl) some_component]
    rw [escaped] at parity
    exact congrArg Except.ok (rebuilt (writtenOperator_of_symbolic symbolic) parity)
  | false =>
    rw [escaped] at parity
    cases keyword : s.usesKeyword with
    | true =>
      -- `path.keyword`, with no symbol or with the standard one
      have without_not : dropNegation s.writtenHead.path =
          (s.path ++ [s.operator.keyword], false) := by
        simp only [writtenHead, escaped, keyword, if_true, Bool.false_eq_true, if_false,
          List.append_nil]
        apply dropNegation_of_ne
        rw [List.getLast?_concat, ne_eq, Option.some.injEq]
        exact keyword_ne_negationWord s.operator
      have standard : s.writtenOperator = .standard := by
        unfold writtenOperator
        rw [keyword, Bool.true_or, if_pos rfl]
      rw [assemble_eq without_not (dropKeyword_concat s.path s.operator) (.inr standard)
        some_component]
      exact congrArg Except.ok (rebuilt rfl parity)
    | false =>
      obtain ⟨affirmative, no_keyword⟩ := unreserved_of_plain escaped keyword
      have without_not : dropNegation s.writtenHead.path = (s.path, false) := by
        simp only [writtenHead, escaped, keyword, Bool.false_eq_true, if_false, List.append_nil]
        apply dropNegation_of_ne
        rw [last, ne_eq, Option.some.injEq]
        exact affirmative
      have kept : s.path.getLast?.bind Operator.ofKeyword? = none := by
        rw [last]
        exact no_keyword
      rw [assemble_eq without_not (dropKeyword_of_none kept) (.inl rfl) some_component]
      exact congrArg Except.ok (rebuilt (writtenOperator_of_symbolic keyword) parity)

/-! ## 5. The round trip -/

/-- A symbol that allows `=`-values is written as a symbol, unless a keyword has to stay. -/
theorem symbolic_of_allowsEquals {s : Segment} (some_value : s.values ≠ [])
    (allows : s.operator.allowsEquals = true)
    (no_keyword : Operator.ofKeyword? s.lastComponent = none) : s.usesKeyword = false := by
  have symbol : s.operator.symbol?.isSome = true := by
    cases op : s.operator with
    | exact | iexact | lessThan | lessOrEqual | greaterThan | greaterOrEqual => rfl
    | regex | isNull | oneOf =>
      rw [op] at allows
      cases allows
  have filled : s.values.isEmpty = false := List.isEmpty_eq_false_iff.mpr some_value
  unfold usesKeyword isNotEscaped Operator.isReserved
  rw [filled, symbol, no_keyword, Option.isNone_eq_false_iff.mpr symbol]
  cases s.lastComponent == Operator.negationWord <;> rfl

/-- The comparison of the canonical text is read as it was written. -/
theorem readComparison_written {s : Segment} (h : s.Readable) :
    readComparison s.writtenComparison =
      .ok { marks := 0, operator := s.writtenOperator, values := s.values } := by
  unfold writtenComparison writtenOperator
  cases empty : s.values.isEmpty with
  | true =>
    rw [if_pos rfl, Bool.or_true, if_pos rfl, List.isEmpty_iff.mp empty]
    rfl
  | false =>
    have some_value := List.isEmpty_eq_false_iff.mp empty
    rw [if_neg Bool.false_ne_true, Bool.or_false]
    unfold writtenSymbol
    cases keyword : s.usesKeyword with
    | true =>
      rw [if_pos rfl, if_pos rfl]
      refine readComparison_symbol rfl some_value h.values_plain fun equals => ?_
      obtain ⟨allows, no_keyword⟩ := h.equals equals
      have symbolic := symbolic_of_allowsEquals some_value allows no_keyword
      rw [keyword] at symbolic
      cases symbolic
    | false =>
      rw [if_neg Bool.false_ne_true, if_neg Bool.false_ne_true]
      unfold usesKeyword at keyword
      rw [empty, if_neg Bool.false_ne_true, Bool.or_eq_false_iff, Option.isNone_eq_false_iff]
        at keyword
      obtain ⟨symbol, spelled⟩ := Option.isSome_iff_exists.mp keyword.1
      rw [spelled]
      exact readComparison_symbol spelled some_value h.values_plain fun equals =>
        (h.equals equals).1

theorem writtenComparison_start {s : Segment} :
    ∀ c ∈ s.writtenComparison.head?, isComparisonMark c = true := by
  intro c hc
  unfold writtenComparison writtenSymbol at hc
  split at hc
  · cases hc
  · have sign : ∃ op : Operator, op.symbol? =
        some (if s.usesKeyword then "=" else s.operator.symbol?.getD "=") := by
      split
      · exact ⟨.standard, rfl⟩
      · cases spelled : s.operator.symbol? with
        | none => exact ⟨.standard, rfl⟩
        | some symbol => exact ⟨s.operator, spelled⟩
    obtain ⟨op, spelled⟩ := sign
    obtain ⟨first, others, start, mark, _⟩ := symbol_start spelled
    rw [start] at hc
    cases hc
    exact mark

theorem writtenHead_words {s : Segment} (h : s.Readable) :
    ∀ p ∈ s.writtenHead.path, IsWord p := by
  have escape : ∀ p ∈ (if s.isNotEscaped then [Operator.negationWord] else []), IsWord p := by
    intro p hp
    split at hp
    · rw [List.mem_singleton.mp hp]
      exact isWord_negationWord
    · cases hp
  have keyword : ∀ p ∈ (if s.usesKeyword then [s.operator.keyword] else []), IsWord p := by
    intro p hp
    split at hp
    · rw [List.mem_singleton.mp hp]
      exact isWord_keyword s.operator
    · cases hp
  exact List.forall_mem_append.mpr ⟨List.forall_mem_append.mpr ⟨h.path_words, escape⟩, keyword⟩

/-- **The canonical text of a readable segment is read as that segment.** -/
theorem read_render {s : Segment} (h : s.Readable) : read s.render.toList = .ok s := by
  have some_component : s.writtenHead.path ≠ [] :=
    List.append_ne_nil_of_left_ne_nil (List.append_ne_nil_of_left_ne_nil h.path_ne_nil _) _
  rw [toList_render h.path_ne_nil,
    read_written _ some_component (writtenHead_words h) h.directive_words writtenComparison_start,
    readComparison_written h]
  exact assemble_written h.path_ne_nil

end FilterQuery.Segment
