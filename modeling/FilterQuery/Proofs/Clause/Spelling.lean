import FilterQuery.Proofs.Clause.RoundTrip

/-!
# How a clause spells its segment

One segment has many spellings. Whatever clause is read, its text consists of

* negation marks;
* the path of the segment, and behind it the components that are taken off again: a keyword, then
  a `not` (`endingComponents`);
* the directives;
* nothing more, or negation marks, a symbol and the values.

`text_of_read` takes a clause apart in this way, and `TakenOff` says how the parts determine the
segment, and that nothing was left on the path that could have been taken off.
-/

namespace FilterQuery.Segment

/-! ## 1. Marks and comparisons -/

/-- A text starts with its negation marks. -/
theorem replicate_append_afterMarks (text : List Char) :
    List.replicate (markCount text) '!' ++ afterMarks text = text := by
  have marks : text.takeWhile (· == '!') = List.replicate (markCount text) '!' := by
    refine List.eq_replicate_iff.mpr ⟨rfl, fun c hc => ?_⟩
    have marked := List.all_eq_true.mp (List.all_takeWhile (p := (· == '!')) (l := text)) c hc
    exact beq_iff_eq.mp marked
  unfold afterMarks
  rw [← marks, List.takeWhile_append_dropWhile]

/-- What a comparison is read from: nothing, or negation marks, a symbol and the values. -/
theorem text_of_readComparison {tail : List Char} {comparison : Comparison}
    (h : readComparison tail = .ok comparison) :
    (tail = [] ∧ comparison = { marks := 0, operator := .standard, values := [] }) ∨
    (comparison.values ≠ [] ∧ ∃ symbol, comparison.operator.symbol? = some symbol ∧
      tail = List.replicate comparison.marks '!' ++
        (symbol.toList ++ valuesText comparison.values)) := by
  rcases readComparison_cases h with nothing | ⟨rest, found, marks, values⟩
  · exact .inl nothing
  · obtain ⟨symbol, spelled, behind, _⟩ := readSymbol_eq_some_iff.mp found
    have some_value : readValues rest ≠ [] :=
      fun none_read => List.splitOn_ne_nil ',' rest (List.map_eq_nil_iff.mp none_read)
    refine .inr ⟨by rw [values]; exact some_value, symbol, spelled, ?_⟩
    rw [marks, values, valuesText_readValues, ← behind, replicate_append_afterMarks]

/-! ## 2. What is taken off a path -/

/-- The components that are taken off a path: a keyword, and a `not` behind it. -/
def endingComponents (keyword : Option Operator) (negation : Bool) : List String :=
  keyword.toList.map Operator.keyword ++ if negation then [Operator.negationWord] else []

/-- How the parts of a clause determine a segment, with the keyword and the `not` that were taken
    off the path. -/
structure TakenOff (marks : Nat) (head : Head) (comparison : Comparison) (s : Segment)
    (keyword : Option Operator) (negation : Bool) : Prop where
  path_ne_nil : s.path ≠ []
  path_eq : head.path = s.path ++ endingComponents keyword negation
  operator_eq : s.operator = keyword.getD comparison.operator
  /-- A keyword stands in for the standard symbol only. -/
  standard : keyword ≠ none → comparison.operator = .standard
  negated_eq : s.negated = ((marks + comparison.marks + negation.toNat) % 2 == 1)
  directives_eq : s.directives = head.directives
  values_eq : s.values = comparison.values
  /-- A keyword at the end of the path would have been taken off. -/
  no_keyword : keyword = none → s.path.getLast?.bind Operator.ofKeyword? = none
  /-- So would a `not`. -/
  no_negation : keyword = none → negation = false →
    s.path.getLast? ≠ some Operator.negationWord

/-- **A segment is assembled from what is left of a path.** -/
theorem takenOff_of_assemble {marks : Nat} {head : Head} {comparison : Comparison} {s : Segment}
    (h : assemble marks head comparison = .ok s) :
    ∃ keyword negation, TakenOff marks head comparison s keyword negation := by
  -- the path without its `not`, and whether there was one
  obtain ⟨affirmed, negation, without_not, path_eq, no_negation⟩ :
      ∃ affirmed negation, dropNegation head.path = (affirmed, negation) ∧
        head.path = affirmed ++ (if negation then [Operator.negationWord] else []) ∧
        (negation = false → affirmed.getLast? ≠ some Operator.negationWord) := by
    rcases dropNegation_cases head.path with ⟨before, path, dropped⟩ | ⟨last, dropped⟩
    · exact ⟨before, true, dropped, path, nofun⟩
    · exact ⟨head.path, false, dropped, (List.append_nil _).symm, fun _ => last⟩
  -- what is left without its keyword
  obtain ⟨path, keyword, without_keyword, affirmed_eq, no_keyword⟩ :
      ∃ path keyword, dropKeyword affirmed = (path, keyword) ∧
        affirmed = path ++ keyword.toList.map Operator.keyword ∧
        (keyword = none → path.getLast?.bind Operator.ofKeyword? = none) := by
    rcases dropKeyword_cases affirmed with ⟨before, op, affirmed_eq, dropped⟩ | ⟨last, dropped⟩
    · exact ⟨before, some op, dropped, affirmed_eq, nofun⟩
    · exact ⟨affirmed, none, dropped, (List.append_nil _).symm, fun _ => last⟩
  unfold assemble at h
  simp only [without_not, without_keyword] at h
  split at h
  · cases h
  · next allowed =>
    split at h
    · cases h
    · next some_component =>
      cases h
      refine ⟨keyword, negation, some_component, ?_, rfl, ?_, rfl, rfl, rfl, no_keyword, ?_⟩
      · rw [path_eq, affirmed_eq, List.append_assoc]
        rfl
      · intro given
        simpa [Option.isSome_iff_ne_none.mpr given] using allowed
      · intro none_given unnegated
        have last := no_negation unnegated
        rw [affirmed_eq, none_given, Option.toList_none, List.map_nil, List.append_nil] at last
        exact last

/-! ## 3. Whole clauses -/

/-- **The text of a clause, part by part.** -/
theorem text_of_read {text : List Char} {s : Segment} (h : read text = .ok s) :
    ∃ marks head comparison tail keyword negation,
      text = List.replicate marks '!' ++ (head.text ++ tail) ∧
      readComparison tail = .ok comparison ∧
      TakenOff marks head comparison s keyword negation := by
  obtain ⟨head, comparison, read_head, read_comparison, assembled⟩ := read_eq_ok h
  obtain ⟨keyword, negation, taken⟩ := takenOff_of_assemble assembled
  obtain ⟨written, _⟩ := (readHead_eq_ok_iff _ head).mp read_head
  refine ⟨_, head, comparison, _, keyword, negation, ?_, read_comparison, taken⟩
  rw [← written, List.takeWhile_append_dropWhile, replicate_append_afterMarks]

end FilterQuery.Segment
