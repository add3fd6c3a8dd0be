import FilterQuery.Proofs.Clause.Comparison
import FilterQuery.Proofs.Clause.Head
import FilterQuery.Segment.Printer

/-!
# What clauses say

Which segments the reader of clauses answers with:

* path components and directives are WORDS: no mark of a head or a comparison stands in them;
* values hold no comma;
* values that start with `=` come only behind a symbol that allows it, and then the path keeps no
  keyword at its end.

`readable_of_read` is the first main statement. The second, `mem_text_of_read`, says that a clause
adds nothing of its own: every character of the segment stands in the text.
-/

namespace FilterQuery.Segment

/-! ## 1. Readable segments -/

/-- A text of word characters. -/
def IsWord (word : String) : Prop :=
  word ≠ "" ∧ ∀ c ∈ word.toList, isWordChar c = true

theorem isWord_iff {word : String} :
    IsWord word ↔ IsName word ∧ ∀ c ∈ word.toList, isComparisonMark c = false := by
  have charwise : ∀ c, isWordChar c = true ↔ isComparisonMark c = false ∧ c ≠ '.' ∧ c ≠ ':' := by
    intro c
    simp [isWordChar, and_assoc]
  constructor
  · intro given
    obtain ⟨filled, chars⟩ := given
    refine ⟨⟨filled, fun dot => ?_, fun colon => ?_⟩, fun c hc => ((charwise c).mp (chars c hc)).1⟩
    · exact ((charwise _).mp (chars _ dot)).2.1 rfl
    · exact ((charwise _).mp (chars _ colon)).2.2 rfl
  · intro given
    obtain ⟨⟨filled, no_dot, no_colon⟩, no_mark⟩ := given
    refine ⟨filled, fun c hc => (charwise c).mpr ⟨no_mark c hc, ?_, ?_⟩⟩
    · intro equal
      subst equal
      exact no_dot hc
    · intro equal
      subst equal
      exact no_colon hc

/-- A segment that some clause says. -/
structure Readable (s : Segment) : Prop where
  path_ne_nil : s.path ≠ []
  path_words : ∀ p ∈ s.path, IsWord p
  directive_words : ∀ d ∈ s.directives, IsWord d
  values_plain : ∀ v ∈ s.values, ',' ∉ v.toList
  equals : startsWithEquals s.values = true →
    s.operator.allowsEquals = true ∧ Operator.ofKeyword? s.lastComponent = none

/-! ## 2. Reserved components at the end of a path -/

/-- **A trailing `not` is taken off**, and nothing else. -/
theorem dropNegation_cases (path : List String) :
    (∃ before, path = before ++ [Operator.negationWord] ∧ dropNegation path = (before, true)) ∨
    (path.getLast? ≠ some Operator.negationWord ∧ dropNegation path = (path, false)) := by
  unfold dropNegation
  split
  · next last =>
    obtain ⟨before, rfl⟩ := List.getLast?_eq_some_iff.mp last
    exact .inl ⟨before, rfl, by rw [List.dropLast_concat]⟩
  · next other => exact .inr ⟨other, rfl⟩

/-- **A trailing keyword is taken off**, and nothing else. -/
theorem dropKeyword_cases (path : List String) :
    (∃ before op, path = before ++ [Operator.keyword op] ∧
      dropKeyword path = (before, some op)) ∨
    (path.getLast?.bind Operator.ofKeyword? = none ∧ dropKeyword path = (path, none)) := by
  unfold dropKeyword
  split
  · next op found =>
    obtain ⟨last, is_last, keyword⟩ := Option.bind_eq_some_iff.mp found
    rw [Operator.ofKeyword?_eq_some_iff] at keyword
    subst keyword
    obtain ⟨before, rfl⟩ := List.getLast?_eq_some_iff.mp is_last
    exact .inl ⟨before, op, rfl, by rw [List.dropLast_concat]⟩
  · next none_found => exact .inr ⟨none_found, rfl⟩

theorem ofKeyword?_lastComponent (s : Segment) :
    Operator.ofKeyword? s.lastComponent = s.path.getLast?.bind Operator.ofKeyword? := by
  unfold lastComponent
  cases s.path.getLast? with
  | none => decide
  | some last => rfl

/-- **What a segment keeps of its clause**: the end of the path may be taken off, the directives and
    the values stay, and a symbol other than the standard one decides the operator. -/
theorem assemble_eq_ok {marks : Nat} {head : Head} {comparison : Comparison} {s : Segment}
    (h : assemble marks head comparison = .ok s) :
    s.path ≠ [] ∧ s.path ⊆ head.path ∧ s.directives = head.directives ∧
      s.values = comparison.values ∧
      (comparison.operator ≠ .standard →
        s.operator = comparison.operator ∧ Operator.ofKeyword? s.lastComponent = none) := by
  unfold assemble at h
  have affirmed_sub : (dropNegation head.path).1 ⊆ head.path := by
    rcases dropNegation_cases head.path with ⟨before, path, dropped⟩ | ⟨_, dropped⟩
    · rw [dropped, path]
      exact List.subset_append_left _ _
    · rw [dropped]
      exact fun _ h => h
  have path_sub := dropKeyword_cases (dropNegation head.path).1
  generalize dropNegation head.path = affirmed at h affirmed_sub path_sub
  obtain ⟨affirmed, negation⟩ := affirmed
  simp only at h affirmed_sub path_sub
  split at h
  · cases h
  · next allowed =>
    split at h
    · cases h
    · next some_component =>
      cases h
      rcases path_sub with ⟨before, op, path, dropped⟩ | ⟨no_keyword, dropped⟩
      · rw [dropped] at allowed some_component ⊢
        refine ⟨some_component, fun p hp => affirmed_sub ?_, rfl, rfl, fun other => ?_⟩
        · rw [path]
          exact List.mem_append_left _ hp
        · simp [other] at allowed
      · rw [dropped] at some_component ⊢
        refine ⟨some_component, affirmed_sub, rfl, rfl, fun _ => ⟨rfl, ?_⟩⟩
        rw [ofKeyword?_lastComponent]
        exact no_keyword

/-! ## 3. The parts of a clause -/

/-- What reading a clause comes to. -/
theorem read_eq_ok {text : List Char} {s : Segment} (h : read text = .ok s) :
    ∃ head comparison,
      readHead ((afterMarks text).takeWhile (fun c => !isComparisonMark c)) = .ok head ∧
      readComparison ((afterMarks text).dropWhile (fun c => !isComparisonMark c)) =
        .ok comparison ∧
      assemble (markCount text) head comparison = .ok s := by
  unfold read at h
  obtain ⟨head, read_head, h⟩ := bind_eq_ok.mp h
  obtain ⟨comparison, read_comparison, h⟩ := bind_eq_ok.mp h
  exact ⟨head, comparison, read_head, read_comparison, h⟩

/-- A clause is read from its text; a refusal alone keeps the text as well. -/
theorem parse_eq_ok_iff {text : String} {s : Segment} :
    Segment.parse text = .ok s ↔ read text.toList = .ok s := by
  unfold Segment.parse
  cases read text.toList with
  | error fault => simp
  | ok result => simp

/-- **Every clause says a readable segment.** -/
theorem readable_of_read {text : List Char} {s : Segment} (h : read text = .ok s) :
    s.Readable := by
  obtain ⟨head, comparison, read_head, read_comparison, assembled⟩ := read_eq_ok h
  obtain ⟨written, _, components, behind⟩ := (readHead_eq_ok_iff _ head).mp read_head
  obtain ⟨some_component, path_sub, directives, values, symbol_decides⟩ := assemble_eq_ok assembled
  have no_mark : ∀ c ∈ head.text, isComparisonMark c = false := by
    intro c hc
    rw [← written] at hc
    simpa using List.all_eq_true.mp List.all_takeWhile c hc
  have path_words : ∀ p ∈ head.path, IsWord p := by
    intro p hp
    refine isWord_iff.mpr ⟨components p hp, fun c hc => no_mark c ?_⟩
    exact mem_intercalate_of_mem List.mem_cons_self
      (mem_intercalate_of_mem (List.mem_map_of_mem hp) hc)
  have directive_words : ∀ d ∈ head.directives, IsWord d := by
    intro d hd
    refine isWord_iff.mpr ⟨behind d hd, fun c hc => no_mark c ?_⟩
    exact mem_intercalate_of_mem (List.mem_cons_of_mem _ (List.mem_map_of_mem hd)) hc
  refine ⟨some_component, fun p hp => path_words p (path_sub hp), ?_, ?_, ?_⟩
  · rw [directives]
    exact directive_words
  · rw [values]
    intro v hv
    rcases readComparison_cases read_comparison with ⟨_, rfl⟩ | ⟨rest, _, _, read_values⟩
    · exact absurd hv List.not_mem_nil
    · rw [read_values] at hv
      exact comma_not_mem_readValues hv
  · rw [values]
    intro equals
    rcases readComparison_cases read_comparison with ⟨_, rfl⟩ | ⟨rest, symbol, _, read_values⟩
    · cases equals
    · rw [read_values, startsWithEquals_iff, valuesText_readValues] at equals
      obtain ⟨_, _, _, allowed⟩ := readSymbol_eq_some_iff.mp symbol
      have allows := allowed equals
      have other : comparison.operator ≠ .standard := by
        intro standard
        rw [standard] at allows
        cases allows
      obtain ⟨operator, no_keyword⟩ := symbol_decides other
      rw [operator]
      exact ⟨allows, no_keyword⟩

/-! ## 4. Characters -/

/-- A character of a segment: one of its path, its directives or its values. -/
def HasChar (s : Segment) (c : Char) : Prop :=
  ∃ w ∈ s.path ++ s.directives ++ s.values, c ∈ w.toList

/-- **A clause adds no character**: what stands in the segment stands in the text. -/
theorem mem_text_of_read {text : List Char} {s : Segment} (h : read text = .ok s) {c : Char}
    (hc : s.HasChar c) : c ∈ text := by
  obtain ⟨head, comparison, read_head, read_comparison, assembled⟩ := read_eq_ok h
  obtain ⟨written, _, _, _⟩ := (readHead_eq_ok_iff _ head).mp read_head
  obtain ⟨_, path_sub, directives, values, _⟩ := assemble_eq_ok assembled
  obtain ⟨w, hw, hc⟩ := hc
  rw [directives, values] at hw
  have body_sub : afterMarks text ⊆ text := (List.dropWhile_suffix _).subset
  have head_sub : head.text ⊆ text := by
    rw [← written]
    exact fun _ h => body_sub ((List.takeWhile_prefix _).subset h)
  rcases List.mem_append.mp hw with hw | hw
  · rcases List.mem_append.mp hw with hw | hw
    · exact head_sub (mem_intercalate_of_mem List.mem_cons_self
        (mem_intercalate_of_mem (List.mem_map_of_mem (path_sub hw)) hc))
    · exact head_sub (mem_intercalate_of_mem
        (List.mem_cons_of_mem _ (List.mem_map_of_mem hw)) hc)
  · rcases readComparison_cases read_comparison with ⟨_, rfl⟩ | ⟨rest, symbol, _, read_values⟩
    · exact absurd hw List.not_mem_nil
    · obtain ⟨sign, _, cut, _⟩ := readSymbol_eq_some_iff.mp symbol
      have in_rest : c ∈ rest := by
        rw [read_values] at hw
        rw [← valuesText_readValues rest]
        exact mem_intercalate_of_mem (List.mem_map_of_mem hw) hc
      have in_tail : c ∈ afterMarks ((afterMarks text).dropWhile (fun c => !isComparisonMark c)) := by
        rw [cut]
        exact List.mem_append_right _ in_rest
      exact body_sub ((List.dropWhile_suffix _).subset ((List.dropWhile_suffix _).subset in_tail))

end FilterQuery.Segment
