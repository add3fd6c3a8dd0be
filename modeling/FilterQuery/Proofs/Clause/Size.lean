import FilterQuery.Proofs.Clause.Spelling
import Mathlib.Data.String.Basic

/-!
# How long canonical clauses are

The canonical text of a segment may be longer than the clause that it was read from, but never by
more than four bytes (`size_render_le_of_read`). Path, directives and values are written as they
were read, so the account is about the rest: negation marks, the components at the end of the path
that are no part of it, and the symbol.

The four bytes are needed where a clause without values ends in two `not`: the inner one is kept by
a keyword, `x.not.not` becoming `!x.not.iexact`.
-/

namespace FilterQuery.Segment

open String (utf8Len utf8Len_append utf8Len_cons utf8Len_nil)

/-! ## 1. Sizes of parts -/

/-- The bytes of components that stand behind a path. -/
def endingSize (components : List String) : Nat :=
  utf8Len (components.flatMap (fun c => '.' :: c.toList))

theorem endingSize_append (first second : List String) :
    endingSize (first ++ second) = endingSize first + endingSize second := by
  unfold endingSize
  rw [List.flatMap_append, utf8Len_append]

theorem endingSize_singleton (component : String) :
    endingSize [component] = utf8Len component.toList + 1 := by
  unfold endingSize
  rw [List.flatMap_singleton, utf8Len_cons]
  rfl

/-- More components stand behind a path, each behind a dot. -/
theorem pathText_append {path : List String} (some_component : path ≠ []) (more : List String) :
    pathText (path ++ more) = pathText path ++ more.flatMap (fun c => '.' :: c.toList) := by
  cases path with
  | nil => exact absurd rfl some_component
  | cons first others =>
    unfold pathText
    rw [List.cons_append, List.map_cons, List.map_cons, intercalate_cons, intercalate_cons,
      List.flatMap_map, List.flatMap_map, List.flatMap_append, List.append_assoc]
    rfl

theorem utf8Len_marks (marks : Nat) : utf8Len (List.replicate marks '!') = marks := by
  induction marks with
  | zero => rfl
  | succ marks ih =>
    rw [List.replicate_succ, utf8Len_cons, ih]
    rfl

/-- The bytes of a head: its path with what stands behind that, and its directives. -/
theorem utf8Len_headText {head : Head} {path ending : List String} (some_component : path ≠ [])
    (path_eq : head.path = path ++ ending) :
    utf8Len head.text = utf8Len (pathText path) + endingSize ending +
      utf8Len (head.directives.flatMap (fun d => ':' :: d.toList)) := by
  rw [Head.text_eq, utf8Len_append, path_eq, pathText_append some_component, utf8Len_append]
  rfl

/-- A symbol is shorter than the keyword of its operator. -/
theorem symbolSize_lt {op : Operator} {symbol : String} (spelled : op.symbol? = some symbol) :
    1 ≤ utf8Len symbol.toList ∧ utf8Len symbol.toList + 1 ≤ utf8Len op.keyword.toList := by
  cases op <;> cases spelled <;> decide

theorem endingSize_endingComponents (keyword : Option Operator) (negation : Bool) :
    endingSize (endingComponents keyword negation) =
      endingSize (keyword.toList.map Operator.keyword) + 4 * negation.toNat := by
  unfold endingComponents
  rw [endingSize_append]
  cases negation <;> rfl

/-! ## 2. The canonical text -/

/-- The components that the canonical text puts behind the path. -/
def writtenEnding (s : Segment) : List String :=
  (if s.isNotEscaped then [Operator.negationWord] else []) ++
    (if s.usesKeyword then [s.operator.keyword] else [])

theorem utf8Len_render {s : Segment} (some_component : s.path ≠ []) :
    utf8Len s.render.toList = s.writtenMarks +
      (utf8Len (pathText s.path) + endingSize s.writtenEnding +
        utf8Len (s.directives.flatMap (fun d => ':' :: d.toList))) +
      utf8Len s.writtenComparison := by
  have head : s.writtenHead.path = s.path ++ s.writtenEnding := List.append_assoc ..
  rw [toList_render some_component, utf8Len_append, utf8Len_append, utf8Len_marks,
    utf8Len_headText some_component head]
  exact (Nat.add_assoc ..).symm

theorem writtenMarks_le_one (s : Segment) : s.writtenMarks ≤ 1 := by
  unfold writtenMarks
  split <;> omega

/-- A negation that is folded into a segment costs one mark at most. -/
theorem utf8Len_render_negate_le {s : Segment} (some_component : s.path ≠ []) :
    utf8Len s.negate.render.toList ≤ utf8Len s.render.toList + 1 := by
  have one := writtenMarks_le_one s.negate
  rw [utf8Len_render (s := s.negate) some_component, utf8Len_render some_component]
  show s.negate.writtenMarks + (utf8Len (pathText s.path) + endingSize s.writtenEnding +
    utf8Len (s.directives.flatMap (fun d => ':' :: d.toList))) + utf8Len s.writtenComparison ≤ _
  omega

theorem utf8Len_writtenComparison {s : Segment} (some_value : s.values ≠ []) :
    utf8Len s.writtenComparison =
      utf8Len s.writtenSymbol.toList + utf8Len (valuesText s.values) := by
  unfold writtenComparison
  rw [if_neg (fun empty => some_value (List.isEmpty_iff.mp empty)), utf8Len_append]

/-! ## 3. The account -/

section Account

variable {marks : Nat} {head : Head} {comparison : Comparison} {s : Segment}
  {keyword : Option Operator} {negation : Bool} {tail : List Char}

/-- No negation mark is new if as many `not` are written as were taken off. -/
theorem writtenMarks_le (taken : TakenOff marks head comparison s keyword negation)
    (same : negation = s.isNotEscaped) : s.writtenMarks ≤ marks + comparison.marks := by
  unfold writtenMarks
  rw [taken.negated_eq, ← same]
  split
  · next odd =>
    -- without a mark the parity would be that of the `not` alone
    refine Nat.one_le_iff_ne_zero.mpr fun no_mark => ?_
    rw [no_mark, Nat.zero_add] at odd
    cases negation <;> exact absurd odd (by decide)
  · exact Nat.zero_le _

/-- A `not` that was taken off pays for the mark that is written in its place. -/
theorem writtenMarks_le_of_unescaped (taken : TakenOff marks head comparison s keyword negation)
    (unescaped : s.isNotEscaped = false) :
    s.writtenMarks ≤ marks + comparison.marks + 4 * negation.toNat := by
  cases negation with
  | true =>
    have one := writtenMarks_le_one s
    rw [Bool.toNat_true]
    omega
  | false => exact writtenMarks_le taken unescaped.symm

/-- A path that ends in `not` lost another `not`, or a keyword. -/
theorem negation_of_kept_not (taken : TakenOff marks head comparison s none negation)
    (kept : s.lastComponent = Operator.negationWord) : negation = true := by
  cases negation with
  | true => rfl
  | false =>
    have last := getLast?_eq_lastComponent taken.path_ne_nil
    rw [kept] at last
    exact absurd last (taken.no_negation rfl rfl)

/-- A reserved component stays at the end of the path only if it is `not`, unless a keyword was
    taken off behind it. -/
theorem kept_not_of_reserved (taken : TakenOff marks head comparison s none negation)
    (reserved : Operator.isReserved s.lastComponent = true) :
    s.lastComponent = Operator.negationWord := by
  have no_keyword := taken.no_keyword rfl
  rw [← ofKeyword?_lastComponent] at no_keyword
  unfold Operator.isReserved at reserved
  rw [no_keyword, Option.isSome_none, Bool.or_false, beq_iff_eq] at reserved
  exact reserved

/-- **Without values**: what is written is at most four bytes longer than what was read. -/
theorem written_le_of_no_values (taken : TakenOff marks head comparison s keyword negation)
    (no_value : s.values = []) (standard : keyword = none → s.operator = .standard)
    (unmarked : comparison.marks = 0) :
    s.writtenMarks + endingSize s.writtenEnding + utf8Len s.writtenComparison ≤
      marks + endingSize (endingComponents keyword negation) + 4 := by
  have empty : s.values.isEmpty = true := List.isEmpty_iff.mpr no_value
  have unescaped : s.isNotEscaped = false := by
    unfold isNotEscaped
    rw [empty, Bool.not_true, Bool.and_false, Bool.false_and]
  have comparison_eq : s.writtenComparison = [] := by
    unfold writtenComparison
    rw [if_pos empty]
  have fewer := writtenMarks_le_of_unescaped taken unescaped
  rw [endingSize_endingComponents, comparison_eq, utf8Len_nil]
  unfold writtenEnding
  rw [unescaped, if_neg Bool.false_ne_true, List.nil_append]
  cases spelled : s.usesKeyword with
  | false =>
    rw [if_neg Bool.false_ne_true]
    have nothing : endingSize [] = 0 := rfl
    omega
  | true =>
    rw [if_pos rfl]
    cases keyword with
    | some op =>
      have operator : s.operator = op := taken.operator_eq
      rw [operator, Option.toList_some, List.map_singleton]
      omega
    | none =>
      -- only a second `not` keeps the first one, and it is four bytes long
      have operator := standard rfl
      have reserved : Operator.isReserved s.lastComponent = true := by
        unfold usesKeyword at spelled
        rw [if_pos empty, operator, bne_self_eq_false, Bool.false_or] at spelled
        exact spelled
      have two_not := negation_of_kept_not taken (kept_not_of_reserved taken reserved)
      have one := writtenMarks_le_one s
      have seven : endingSize [Operator.standard.keyword] = 7 := rfl
      have nothing : endingSize ((none : Option Operator).toList.map Operator.keyword) = 0 := rfl
      rw [operator, two_not, Bool.toNat_true]
      omega

/-- The symbol of a segment is no longer than what its operator was read from. -/
theorem symbolSize_le (taken : TakenOff marks head comparison s keyword negation)
    {symbol sign : String} (spelled : comparison.operator.symbol? = some symbol)
    (own : s.operator.symbol? = some sign) :
    utf8Len sign.toList ≤
      endingSize (keyword.toList.map Operator.keyword) + utf8Len symbol.toList := by
  cases keyword with
  | some op =>
    have operator : s.operator = op := taken.operator_eq
    obtain ⟨-, shorter⟩ := symbolSize_lt own
    rw [operator] at shorter
    rw [Option.toList_some, List.map_singleton, endingSize_singleton]
    omega
  | none =>
    have operator : s.operator = comparison.operator := taken.operator_eq
    rw [operator, spelled, Option.some.injEq] at own
    rw [own]
    exact Nat.le_add_left _ _

/-- Behind a kept `not` stand another one and a symbol, which takes no more than what was read: two
    `not`, or a keyword. -/
theorem written_le_of_escaped (taken : TakenOff marks head comparison s keyword negation)
    {symbol : String} (spelled : comparison.operator.symbol? = some symbol)
    (escaped : s.isNotEscaped = true) :
    s.writtenMarks + endingSize s.writtenEnding + utf8Len s.writtenSymbol.toList ≤
      marks + endingSize (endingComponents keyword negation) +
        (comparison.marks + utf8Len symbol.toList) + 2 := by
  obtain ⟨symbolic, kept, -⟩ := symbolic_of_escaped escaped
  obtain ⟨sign, own⟩ : ∃ sign, s.operator.symbol? = some sign := by
    unfold isNotEscaped at escaped
    rw [Bool.and_eq_true, Option.isSome_iff_exists] at escaped
    exact escaped.2
  have ending : s.writtenEnding = [Operator.negationWord] := by
    unfold writtenEnding
    rw [escaped, symbolic, if_pos rfl, if_neg Bool.false_ne_true]
    rfl
  have symbol_eq : s.writtenSymbol = sign := by
    unfold writtenSymbol
    rw [symbolic, if_neg Bool.false_ne_true, own, Option.getD_some]
  have four : endingSize [Operator.negationWord] = 4 := rfl
  have one := writtenMarks_le_one s
  obtain ⟨symbol_filled, -⟩ := symbolSize_lt spelled
  rw [endingSize_endingComponents, ending, symbol_eq, four]
  cases keyword with
  | none =>
    have two_not := negation_of_kept_not taken kept
    have none_new := writtenMarks_le taken (two_not.trans escaped.symm)
    have same_symbol := symbolSize_le taken spelled own
    rw [two_not, Bool.toNat_true]
    omega
  | some op =>
    have operator : s.operator = op := taken.operator_eq
    obtain ⟨-, shorter⟩ := symbolSize_lt own
    rw [operator] at shorter
    rw [Option.toList_some, List.map_singleton, endingSize_singleton]
    omega

/-- A keyword in front of values was read as that keyword: an operator that was read from a symbol
    has one, and a kept `not` would be escaped. -/
theorem keyword_of_usesKeyword (taken : TakenOff marks head comparison s keyword negation)
    (some_value : s.values ≠ []) {symbol : String}
    (spelled : comparison.operator.symbol? = some symbol) (unescaped : s.isNotEscaped = false)
    (uses : s.usesKeyword = true) : keyword = some s.operator := by
  cases keyword with
  | some op => exact congrArg some taken.operator_eq.symm
  | none =>
    have filled : s.values.isEmpty = false := List.isEmpty_eq_false_iff.mpr some_value
    have operator : s.operator = comparison.operator := taken.operator_eq
    have symbolic : s.operator.symbol?.isSome = true := by
      rw [operator, spelled]
      rfl
    have reserved : Operator.isReserved s.lastComponent = true := by
      unfold usesKeyword at uses
      rw [filled, if_neg Bool.false_ne_true, Bool.or_eq_true, Option.isNone_iff_eq_none,
        Bool.and_eq_true] at uses
      rcases uses with no_symbol | ⟨reserved, -⟩
      · rw [no_symbol] at symbolic
        cases symbolic
      · exact reserved
    unfold isNotEscaped at unescaped
    rw [kept_not_of_reserved taken reserved, filled, symbolic] at unescaped
    cases unescaped

/-- **With values**: what is written is at most two bytes longer than what was read. The values
    themselves are the same. -/
theorem written_le_of_values (taken : TakenOff marks head comparison s keyword negation)
    (some_value : s.values ≠ []) {symbol : String}
    (spelled : comparison.operator.symbol? = some symbol) :
    s.writtenMarks + endingSize s.writtenEnding + utf8Len s.writtenSymbol.toList ≤
      marks + endingSize (endingComponents keyword negation) +
        (comparison.marks + utf8Len symbol.toList) + 2 := by
  cases escaped : s.isNotEscaped with
  | true => exact written_le_of_escaped taken spelled escaped
  | false =>
    have fewer := writtenMarks_le_of_unescaped taken escaped
    obtain ⟨symbol_filled, -⟩ := symbolSize_lt spelled
    rw [endingSize_endingComponents]
    unfold writtenEnding writtenSymbol
    rw [escaped, if_neg Bool.false_ne_true, List.nil_append]
    cases uses : s.usesKeyword with
    | true =>
      have equals : utf8Len "=".toList = 1 := rfl
      rw [if_pos rfl, if_pos rfl, keyword_of_usesKeyword taken some_value spelled escaped uses,
        Option.toList_some, List.map_singleton]
      omega
    | false =>
      obtain ⟨sign, own⟩ : ∃ sign, s.operator.symbol? = some sign := by
        unfold usesKeyword at uses
        rw [List.isEmpty_eq_false_iff.mpr some_value, if_neg Bool.false_ne_true,
          Bool.or_eq_false_iff, Option.isNone_eq_false_iff, Option.isSome_iff_exists] at uses
        exact uses.1
      have shorter := symbolSize_le taken spelled own
      have nothing : endingSize [] = 0 := rfl
      rw [if_neg Bool.false_ne_true, if_neg Bool.false_ne_true, own, Option.getD_some]
      omega

end Account

/-- **The canonical text of a clause is at most four bytes longer than the clause.** -/
theorem size_render_le_of_read {text : List Char} {s : Segment} (h : read text = .ok s) :
    utf8Len s.render.toList ≤ utf8Len text + 4 := by
  obtain ⟨marks, head, comparison, tail, keyword, negation, rfl, read_tail, taken⟩ :=
    text_of_read h
  rw [utf8Len_render taken.path_ne_nil, utf8Len_append, utf8Len_append, utf8Len_marks,
    utf8Len_headText taken.path_ne_nil taken.path_eq, ← taken.directives_eq]
  rcases text_of_readComparison read_tail with ⟨rfl, nothing⟩ | ⟨some_value, symbol, spelled, rfl⟩
  · have no_value : s.values = [] := by
      rw [taken.values_eq, nothing]
    have standard : keyword = none → s.operator = .standard := by
      intro none_given
      rw [taken.operator_eq, none_given, nothing]
      rfl
    have account := written_le_of_no_values taken no_value standard (by rw [nothing])
    omega
  · rw [← taken.values_eq] at some_value
    have account := written_le_of_values taken some_value spelled
    rw [utf8Len_writtenComparison some_value, utf8Len_append, utf8Len_append, utf8Len_marks,
      ← taken.values_eq]
    omega

end FilterQuery.Segment
