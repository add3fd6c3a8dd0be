import FilterQuery.Proofs.Pieces
import FilterQuery.Segment.Reader

/-!
# The comparison of a clause

A symbol is read greedily, so what follows it must not go on with it. Only `=` can go on, and only
behind `=`, `<` and `>`: the three operators whose symbol ends in a second `=` allow any values
(`allowsEquals`), the others allow none that start with `=`.
-/

namespace FilterQuery

/-- Whether the symbol of an operator may be followed by `=`. -/
def Operator.allowsEquals (op : Operator) : Bool :=
  op == .exact || op == .lessOrEqual || op == .greaterOrEqual

namespace Segment

/-! ## 1. Symbols -/

/-- A symbol that is read was written, and nothing goes on with it. -/
theorem written_of_readSymbol {text rest : List Char} {op : Operator}
    (h : readSymbol text = some (op, rest)) :
    ∃ symbol, op.symbol? = some symbol ∧ text = symbol.toList ++ rest ∧
      (rest.head? = some '=' → op.allowsEquals = true) := by
  -- behind a symbol of one character, the longer one was tried first
  have shorter : ∀ {chars : List Char} {claim : Prop}, (∀ others, chars = '=' :: others → False) →
      chars.head? = some '=' → claim := by
    intro chars claim longer equals
    obtain ⟨others, same⟩ := List.head?_eq_some_iff.mp equals
    exact absurd same (longer others)
  unfold readSymbol at h
  split at h
  · cases h
    exact ⟨"==", rfl, rfl, fun _ => rfl⟩
  · next rest' longer =>
    cases h
    exact ⟨"=", rfl, rfl, shorter longer⟩
  · cases h
    exact ⟨"<=", rfl, rfl, fun _ => rfl⟩
  · next rest' longer =>
    cases h
    exact ⟨"<", rfl, rfl, shorter longer⟩
  · cases h
    exact ⟨">=", rfl, rfl, fun _ => rfl⟩
  · next rest' longer =>
    cases h
    exact ⟨">", rfl, rfl, shorter longer⟩
  · cases h

/-- A symbol is read where it is written and nothing goes on with it. -/
theorem readSymbol_written {rest : List Char} {op : Operator} {symbol : String}
    (spelled : op.symbol? = some symbol)
    (plain : rest.head? = some '=' → op.allowsEquals = true) :
    readSymbol (symbol.toList ++ rest) = some (op, rest) := by
  -- where the symbol is one character long, no `=` may follow it
  have follow : op.allowsEquals = false →
      rest = [] ∨ ∃ c others, rest = c :: others ∧ c ≠ '=' := by
    intro strict
    cases rest with
    | nil => exact .inl rfl
    | cons c others =>
      refine .inr ⟨c, others, rfl, ?_⟩
      intro equal
      subst equal
      rw [plain rfl] at strict
      cases strict
  cases op with
  | exact | lessOrEqual | greaterOrEqual =>
    cases spelled
    rfl
  | iexact | lessThan | greaterThan =>
    cases spelled
    rcases follow rfl with rfl | ⟨c, others, rfl, differs⟩
    · rfl
    · simp [readSymbol, differs]
  | regex | isNull | oneOf => cases spelled

/-- **A symbol is read exactly when it is written and nothing goes on with it.** -/
theorem readSymbol_eq_some_iff {text rest : List Char} {op : Operator} :
    readSymbol text = some (op, rest) ↔
      ∃ symbol, op.symbol? = some symbol ∧ text = symbol.toList ++ rest ∧
        (rest.head? = some '=' → op.allowsEquals = true) := by
  constructor
  · exact written_of_readSymbol
  · intro given
    obtain ⟨symbol, spelled, rfl, plain⟩ := given
    exact readSymbol_written spelled plain

/-- A symbol starts with a comparison mark that is no negation mark. -/
theorem symbol_start {op : Operator} {symbol : String} (h : op.symbol? = some symbol) :
    ∃ c others, symbol.toList = c :: others ∧ isComparisonMark c = true ∧ c ≠ '!' := by
  cases op <;> cases h <;> exact ⟨_, _, rfl, rfl, by decide⟩

/-! ## 2. Values -/

/-- The text of values. -/
def valuesText (values : List String) : List Char :=
  [','].intercalate (values.map String.toList)

/-- Whether the first of some values starts with `=`. -/
def startsWithEquals : List String → Bool
  | [] => false
  | first :: _ => first.toList.head? == some '='

theorem startsWithEquals_iff (values : List String) :
    startsWithEquals values = true ↔ (valuesText values).head? = some '=' := by
  unfold valuesText
  cases values with
  | nil => simp [startsWithEquals]
  | cons first others =>
    cases others with
    | nil => simp [startsWithEquals]
    | cons second others =>
      rw [List.map_cons, List.map_cons, List.intercalate_cons_cons]
      cases h : first.toList with
      | nil => simp [startsWithEquals, h]
      | cons c chars => simp [startsWithEquals, h]

/-- What is read as values is their text. -/
theorem valuesText_readValues (text : List Char) : valuesText (readValues text) = text := by
  have same : (readValues text).map String.toList = text.splitOn ',' := by
    unfold readValues
    rw [List.map_map]
    exact (List.map_congr_left fun _ _ => String.toList_ofList).trans (List.map_id _)
  unfold valuesText
  rw [same, List.intercalate_splitOn]

theorem comma_not_mem_readValues {text : List Char} {value : String} (h : value ∈ readValues text) :
    ',' ∉ value.toList := by
  obtain ⟨piece, member, rfl⟩ := List.mem_map.mp h
  rw [String.toList_ofList]
  exact not_mem_of_mem_splitOn member

/-- Values without commas are read from their text. -/
theorem readValues_valuesText {values : List String} (some_value : values ≠ [])
    (plain : ∀ v ∈ values, ',' ∉ v.toList) : readValues (valuesText values) = values := by
  have cut : (valuesText values).splitOn ',' = values.map String.toList := by
    refine List.splitOn_intercalate ',' ?_ (fun h => some_value (List.map_eq_nil_iff.mp h))
    intro piece hp
    obtain ⟨v, member, rfl⟩ := List.mem_map.mp hp
    exact plain v member
  unfold readValues
  rw [cut, List.map_map]
  exact (List.map_congr_left fun _ _ => String.ofList_toList).trans (List.map_id _)

/-! ## 3. Comparisons -/

/-- **The comparisons that are read**: none at all, or a symbol with its values. -/
theorem readComparison_cases {text : List Char} {comparison : Comparison}
    (h : readComparison text = .ok comparison) :
    (text = [] ∧ comparison = { marks := 0, operator := .standard, values := [] }) ∨
    (∃ rest, readSymbol (afterMarks text) = some (comparison.operator, rest) ∧
      comparison.marks = markCount text ∧ comparison.values = readValues rest) := by
  unfold readComparison at h
  split at h
  · cases h
    exact .inl ⟨rfl, rfl⟩
  · split at h
    · next op rest symbol =>
      cases h
      exact .inr ⟨rest, symbol, rfl, rfl⟩
    · cases h

/-- A symbol with values behind it is read as just that. -/
theorem readComparison_symbol {op : Operator} {symbol : String} {values : List String}
    (spelled : op.symbol? = some symbol) (some_value : values ≠ [])
    (plain : ∀ v ∈ values, ',' ∉ v.toList)
    (equals : startsWithEquals values = true → op.allowsEquals = true) :
    readComparison (symbol.toList ++ valuesText values) =
      .ok { marks := 0, operator := op, values } := by
  obtain ⟨c, others, start, _, no_mark⟩ := symbol_start spelled
  have found : readSymbol (symbol.toList ++ valuesText values) = some (op, valuesText values) :=
    readSymbol_eq_some_iff.mpr
      ⟨symbol, spelled, rfl, fun h => equals ((startsWithEquals_iff values).mpr h)⟩
  have unmarked : afterMarks (symbol.toList ++ valuesText values) =
      symbol.toList ++ valuesText values := by
    rw [start]
    simp [afterMarks, no_mark]
  have none_counted : markCount (symbol.toList ++ valuesText values) = 0 := by
    rw [start]
    simp [markCount, no_mark]
  unfold readComparison
  split
  · next empty =>
    rw [start] at empty
    cases empty
  · rw [unmarked, found, none_counted]
    simp only [readValues_valuesText some_value plain]

end Segment

end FilterQuery
