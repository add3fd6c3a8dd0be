import FilterQuery.Proofs.Clause.RoundTrip

/-!
# Which segments read back

The canonical text of a segment is read as that segment exactly if the segment is RECOVERABLE:

* it has a path, and its names -- path components and directives -- hold a character and no mark of
  a clause;
* no value holds a `,`;
* a first value starts with `=` only behind a symbol that ends in a second `=`, on a path that ends
  in no keyword. Any other operator, and any keyword that has to be kept, puts a symbol in front of
  the value that would be read on into it.

The conditions are stated mark by mark, for a segment that may have been built by hand.
`recoverable_iff` ties them to the segments that the reader of clauses answers with, so a segment is
recoverable also exactly if some clause says it (`parse_render_iff_recoverable`).
-/

namespace FilterQuery.Segment

/-! ## 1. Names -/

/-- The marks of a clause that end a path component or a directive. -/
def clauseMarks : List Char := ['!', '=', '<', '>', '.', ':']

theorem mem_clauseMarks_iff (c : Char) : c ∈ clauseMarks ↔ isWordChar c = false := by
  simp only [clauseMarks, isWordChar, isComparisonMark, List.mem_cons, List.not_mem_nil,
    Bool.and_eq_false_iff, Bool.not_eq_false', Bool.or_eq_true, beq_iff_eq, bne_eq_false_iff_eq,
    or_assoc, or_false]

/-- A name without marks is a word. -/
theorem isWord_iff_unmarked (w : String) :
    IsWord w ↔ w ≠ "" ∧ ∀ mark ∈ clauseMarks, mark ∉ w.toList := by
  refine and_congr_right fun _ => ?_
  constructor
  · intro word mark is_mark inside
    rw [mem_clauseMarks_iff, word mark inside] at is_mark
    cases is_mark
  · intro unmarked c hc
    rw [← Bool.not_eq_false, ← mem_clauseMarks_iff]
    exact fun mark => unmarked c mark hc

/-! ## 2. First values -/

theorem startsWithEquals_eq_true_iff (values : List String) :
    startsWithEquals values = true ↔ ∃ v ∈ values.head?, v.toList.head? = some '=' := by
  cases values with
  | nil => simp [startsWithEquals]
  | cons first others => simp [startsWithEquals]

theorem allowsEquals_iff (op : Operator) :
    op.allowsEquals = true ↔ op = .exact ∨ op = .lessOrEqual ∨ op = .greaterOrEqual := by
  simp only [Operator.allowsEquals, Bool.or_eq_true, beq_iff_eq, or_assoc]

/-- No keyword is found at the end of a path exactly when it ends in none. -/
theorem bind_ofKeyword?_eq_none_iff (path : List String) :
    path.getLast?.bind Operator.ofKeyword? = none ↔
      ∀ op : Operator, path.getLast? ≠ some op.keyword := by
  constructor
  · intro none_found op last
    rw [last, Option.bind_some, Operator.ofKeyword?_keyword] at none_found
    cases none_found
  · intro no_keyword
    rw [Option.bind_eq_none_iff]
    intro last is_last
    rw [Option.eq_none_iff_forall_ne_some]
    intro op found
    rw [Operator.keyword_of_ofKeyword? found |>.symm] at is_last
    exact no_keyword op is_last

theorem ofKeyword?_lastComponent_eq_none_iff (s : Segment) :
    Operator.ofKeyword? s.lastComponent = none ↔
      ∀ op : Operator, s.path.getLast? ≠ some op.keyword := by
  rw [ofKeyword?_lastComponent, bind_ofKeyword?_eq_none_iff]

/-- Where a first value may start with `=`, mark by mark. -/
theorem equals_iff (s : Segment) :
    (startsWithEquals s.values = true →
      s.operator.allowsEquals = true ∧ Operator.ofKeyword? s.lastComponent = none) ↔
    ∀ v ∈ s.values.head?, v.toList.head? = some '=' →
      (s.operator = .exact ∨ s.operator = .lessOrEqual ∨ s.operator = .greaterOrEqual) ∧
        ∀ op : Operator, s.path.getLast? ≠ some op.keyword := by
  rw [startsWithEquals_eq_true_iff, allowsEquals_iff, ofKeyword?_lastComponent_eq_none_iff]
  constructor
  · intro given v first equals
    exact given ⟨v, first, equals⟩
  · intro given ⟨v, first, equals⟩
    exact given v first equals

/-! ## 3. Recoverable segments -/

/-- A segment whose names and values are free of the marks of a clause that would cut them up, and of
    further marks. -/
structure FreeOf (marks : List Char) (s : Segment) : Prop where
  path_ne_nil : s.path ≠ []
  names : ∀ w ∈ s.path ++ s.directives, w ≠ "" ∧ ∀ mark ∈ clauseMarks ++ marks, mark ∉ w.toList
  values : ∀ v ∈ s.values, ∀ mark ∈ ',' :: marks, mark ∉ v.toList
  /-- A first value that starts with `=` stands behind a symbol that ends in a second `=`. -/
  equals : ∀ v ∈ s.values.head?, v.toList.head? = some '=' →
    (s.operator = .exact ∨ s.operator = .lessOrEqual ∨ s.operator = .greaterOrEqual) ∧
      ∀ op : Operator, s.path.getLast? ≠ some op.keyword

/-- **Freedom of marks** is what clauses guarantee of the segments that they say, and the absence of
    the further marks. -/
theorem freeOf_iff {marks : List Char} {s : Segment} : s.FreeOf marks ↔ s.Readable ∧
    ∀ w ∈ s.path ++ s.directives ++ s.values, ∀ mark ∈ marks, mark ∉ w.toList := by
  constructor
  · intro given
    have words : ∀ w ∈ s.path ++ s.directives, IsWord w := fun w hw =>
      (isWord_iff_unmarked w).mpr ⟨(given.names w hw).1,
        fun mark is_mark => (given.names w hw).2 mark (List.mem_append_left _ is_mark)⟩
    obtain ⟨path, directives⟩ := List.forall_mem_append.mp words
    refine ⟨⟨given.path_ne_nil, path, directives,
      fun v hv => given.values v hv ',' List.mem_cons_self, s.equals_iff.mpr given.equals⟩,
      List.forall_mem_append.mpr ⟨?_, ?_⟩⟩
    · exact fun w hw mark is_mark => (given.names w hw).2 mark (List.mem_append_right _ is_mark)
    · exact fun v hv mark is_mark => given.values v hv mark (List.mem_cons_of_mem _ is_mark)
  · intro given
    obtain ⟨readable, free⟩ := given
    obtain ⟨free_names, free_values⟩ := List.forall_mem_append.mp free
    have words : ∀ w ∈ s.path ++ s.directives, IsWord w :=
      List.forall_mem_append.mpr ⟨readable.path_words, readable.directive_words⟩
    refine ⟨readable.path_ne_nil, fun w hw => ?_, fun v hv => ?_, s.equals_iff.mp readable.equals⟩
    · obtain ⟨filled, unmarked⟩ := (isWord_iff_unmarked w).mp (words w hw)
      exact ⟨filled, List.forall_mem_append.mpr ⟨unmarked, free_names w hw⟩⟩
    · exact List.forall_mem_cons.mpr ⟨readable.values_plain v hv, free_values v hv⟩

/-- A segment that its canonical text brings back. -/
def Recoverable (s : Segment) : Prop :=
  s.FreeOf []

/-- **The recoverable segments are those that clauses say.** -/
theorem recoverable_iff (s : Segment) : s.Recoverable ↔ s.Readable := by
  rw [Recoverable, freeOf_iff]
  exact and_iff_left fun _ _ _ is_mark => absurd is_mark List.not_mem_nil

/-- **The round trip of clauses and its exact domain**: the canonical text of a segment is read as
    that segment if and only if the segment is recoverable, and every clause that is read says a
    recoverable one. -/
theorem parse_render_iff_recoverable :
    (∀ s : Segment, Segment.parse s.render = .ok s ↔ s.Recoverable) ∧
    ∀ (text : String) (s : Segment), Segment.parse text = .ok s → s.Recoverable := by
  have said : ∀ (text : String) (s : Segment), Segment.parse text = .ok s → s.Recoverable :=
    fun text s parsed => s.recoverable_iff.mpr (readable_of_read (parse_eq_ok_iff.mp parsed))
  refine ⟨fun s => ⟨said s.render s, fun recoverable => ?_⟩, said⟩
  exact parse_eq_ok_iff.mpr (read_render (s.recoverable_iff.mp recoverable))

/-- A kept `not` in front of a value that goes on with the symbol. -/
theorem parse_render_iff_recoverable_kept_not :
    ∃ s : Segment, Segment.parse "!!x.not.not:asc!<==a,:b" = .ok s ∧ s.Recoverable ∧
      s.render = "!x.not.not:asc<==a,:b" ∧ Segment.parse s.render = .ok s := by
  have read : Segment.parse "!!x.not.not:asc!<==a,:b" = .ok
      { path := ["x", "not"], operator := .lessOrEqual, directives := ["asc"],
        values := ["=a", ":b"] } := by
    rfl
  obtain ⟨domain, said⟩ := parse_render_iff_recoverable
  have recoverable := said _ _ read
  exact ⟨_, read, recoverable, by rfl, (domain _).mpr recoverable⟩

end FilterQuery.Segment
