import FilterQuery.Sql.Predicate

/-!
# Where the placeholders of a condition are

A `?` is a placeholder if it stands outside double quotes. A doubled quote inside a name closes the
quotes and opens them again, so it is enough to turn at every quote.

* `placeholders` -- the offsets of the placeholders of a text;
* `Holds` -- a text that closes its quotes and has a number of placeholders;
* `Column.holds_text`, `Test.holds_text`, `holds_memberText` -- none in a column, one in a test, one
  for each value in a list.
-/

namespace FilterQuery.Sql

/-! ## 1. Placeholders of a text -/

/-- Whether a quote is open behind a text. -/
def quotedAfter (quoted : Bool) : List Char → Bool
  | [] => quoted
  | c :: text => quotedAfter (if c = '"' then !quoted else quoted) text

/-- The offsets of the placeholders of a text that begins at an offset. -/
def placeholdersFrom (quoted : Bool) (offset : Nat) : List Char → List Nat
  | [] => []
  | c :: text =>
    let rest := placeholdersFrom (if c = '"' then !quoted else quoted) (offset + 1) text
    if c = '?' ∧ quoted = false then offset :: rest else rest

/-- The offsets of the placeholders of a text, from left to right. -/
def placeholders (text : List Char) : List Nat :=
  placeholdersFrom false 0 text

theorem quotedAfter_append (quoted : Bool) (w v : List Char) :
    quotedAfter quoted (w ++ v) = quotedAfter (quotedAfter quoted w) v := by
  induction w generalizing quoted with
  | nil => rfl
  | cons c w ih => exact ih _

theorem placeholdersFrom_append (quoted : Bool) (offset : Nat) (w v : List Char) :
    placeholdersFrom quoted offset (w ++ v) =
      placeholdersFrom quoted offset w ++
        placeholdersFrom (quotedAfter quoted w) (offset + w.length) v := by
  induction w generalizing quoted offset with
  | nil => rfl
  | cons c w ih =>
    have length_eq : offset + (c :: w).length = offset + 1 + w.length := by
      rw [List.length_cons]
      omega
    simp only [List.cons_append, placeholdersFrom, quotedAfter, ih, length_eq]
    by_cases mark : c = '?' ∧ quoted = false
    · rw [if_pos mark, if_pos mark, List.cons_append]
    · rw [if_neg mark, if_neg mark]

/-- Text in front moves every placeholder. -/
theorem placeholdersFrom_eq_map (quoted : Bool) (offset : Nat) (w : List Char) :
    placeholdersFrom quoted offset w = (placeholdersFrom quoted 0 w).map (offset + ·) := by
  induction w generalizing quoted offset with
  | nil => rfl
  | cons c w ih =>
    have moved : ∀ q, placeholdersFrom q (offset + 1) w =
        (placeholdersFrom q (0 + 1) w).map (offset + ·) := by
      intro q
      rw [ih q (offset + 1), ih q (0 + 1), List.map_map]
      refine List.map_congr_left (fun n _ => ?_)
      show offset + 1 + n = offset + (0 + 1 + n)
      omega
    simp only [placeholdersFrom, moved]
    by_cases mark : c = '?' ∧ quoted = false
    · rw [if_pos mark, if_pos mark, List.map_cons]
      rfl
    · rw [if_neg mark, if_neg mark]

/-- A placeholder stands inside the text. -/
theorem lt_length_of_mem_placeholders {quoted : Bool} {w : List Char} {p : Nat}
    (mem : p ∈ placeholdersFrom quoted 0 w) : p < w.length := by
  induction w generalizing quoted p with
  | nil => cases mem
  | cons c w ih =>
    have later : ∀ q, p ∈ placeholdersFrom q (0 + 1) w → p < (c :: w).length := by
      intro q h
      rw [placeholdersFrom_eq_map] at h
      obtain ⟨n, n_mem, rfl⟩ := List.mem_map.mp h
      have bound := ih n_mem
      rw [List.length_cons]
      omega
    simp only [placeholdersFrom] at mem
    by_cases mark : c = '?' ∧ quoted = false
    · rw [if_pos mark] at mem
      rcases List.mem_cons.mp mem with rfl | mem
      · exact Nat.zero_lt_succ _
      · exact later _ mem
    · rw [if_neg mark] at mem
      exact later _ mem

/-! ## 2. Texts that close their quotes -/

/-- A text closes its quotes and has this number of placeholders. -/
structure Holds (count : Nat) (w : List Char) : Prop where
  closed : quotedAfter false w = false
  length_eq : (placeholders w).length = count

/-- Behind a text that closes its quotes, placeholders are what they are alone. -/
theorem placeholders_append {w : List Char} (closed : quotedAfter false w = false) (v : List Char) :
    placeholders (w ++ v) = placeholders w ++ (placeholders v).map (w.length + ·) := by
  unfold placeholders
  rw [placeholdersFrom_append, closed, placeholdersFrom_eq_map false (0 + w.length), Nat.zero_add]

namespace Holds

theorem append {m n : Nat} {w v : List Char} (first : Holds m w) (second : Holds n v) :
    Holds (m + n) (w ++ v) where
  closed := by rw [quotedAfter_append, first.closed, second.closed]
  length_eq := by
    rw [placeholders_append first.closed, List.length_append, List.length_map, first.length_eq,
      second.length_eq]

/-- Text without placeholders in front. -/
theorem behind {n : Nat} {w v : List Char} (first : Holds 0 w) (second : Holds n v) :
    Holds n (w ++ v) := by
  have joined := first.append second
  rw [Nat.zero_add] at joined
  exact joined

/-- Text without placeholders at the end. -/
theorem followed {n : Nat} {w v : List Char} (first : Holds n w) (second : Holds 0 v) :
    Holds n (w ++ v) :=
  first.append second

/-- Texts without placeholders, joined by a text without placeholders. -/
theorem intercalate {s : List Char} (between : Holds 0 s) :
    ∀ {pieces : List (List Char)}, (∀ w ∈ pieces, Holds 0 w) → Holds 0 (s.intercalate pieces)
  | [], _ => ⟨rfl, rfl⟩
  | [w], each => by
    rw [List.intercalate_singleton]
    exact each w List.mem_cons_self
  | w :: v :: pieces, each => by
    have first := each w List.mem_cons_self
    have rest := intercalate between (fun u h => each u (List.mem_cons_of_mem w h))
    rw [List.intercalate_cons_cons, List.append_assoc]
    exact first.behind (between.behind rest)

end Holds

/-! ## 3. Columns and tests -/

/-- **Nothing inside a quoted name is a placeholder**, and its doubled quotes do not end it. -/
theorem placeholdersFrom_doubled (name : List Char) (offset : Nat) :
    quotedAfter true (name.flatMap doubleQuote) = true ∧
      placeholdersFrom true offset (name.flatMap doubleQuote) = [] := by
  induction name generalizing offset with
  | nil => exact ⟨rfl, rfl⟩
  | cons c name ih =>
    have here : quotedAfter true (doubleQuote c) = true ∧
        placeholdersFrom true offset (doubleQuote c) = [] := by
      unfold doubleQuote
      by_cases quote : c = '"'
      · subst quote
        exact ⟨rfl, rfl⟩
      · rw [if_neg quote]
        simp only [quotedAfter, placeholdersFrom, if_neg quote, Bool.true_eq_false, and_false,
          if_false, and_self]
    have rest := ih (offset + (doubleQuote c).length)
    rw [List.flatMap_cons, quotedAfter_append, placeholdersFrom_append, here.1, here.2]
    exact rest

theorem holds_quoteIdentifier (name : String) : Holds 0 (quoteIdentifier name).toList := by
  obtain ⟨quoted, none_inside⟩ := placeholdersFrom_doubled name.toList 1
  have text : (quoteIdentifier name).toList =
      '"' :: (name.toList.flatMap doubleQuote ++ ['"']) := by
    simp [quoteIdentifier]
  rw [text]
  constructor
  · show quotedAfter true _ = false
    rw [quotedAfter_append, quoted]
    rfl
  · show (placeholdersFrom true 1 _).length = 0
    rw [placeholdersFrom_append, none_inside, quoted]
    rfl

theorem Column.holds_text (column : Column) : Holds 0 column.text.toList := by
  rw [Column.text, String.toList_intercalate]
  refine Holds.intercalate ⟨rfl, rfl⟩ (fun w mem => ?_)
  obtain ⟨part, part_mem, rfl⟩ := List.mem_map.mp mem
  obtain ⟨name, -, rfl⟩ := List.mem_map.mp part_mem
  exact holds_quoteIdentifier name

/-- A test has one placeholder. -/
theorem Test.holds_text {column : String} (h : Holds 0 column.toList) (test : Test) :
    Holds 1 (test.text column).toList := by
  cases test with
  | equalIgnoringCase | matching | nullness =>
    simp only [Test.text, String.toList_join, List.flatMap_cons, List.flatMap_nil, List.append_nil]
    exact Holds.behind ⟨rfl, rfl⟩ (h.behind ⟨rfl, rfl⟩)
  | equal | less | lessOrEqual | greater | greaterOrEqual =>
    simp only [Test.text, String.toList_append]
    exact h.behind ⟨rfl, rfl⟩

/-- A list has one placeholder for each of its values. -/
theorem holds_memberText {column : String} (h : Holds 0 column.toList) (values : List Value) :
    Holds values.length (Predicate.memberText column values).toList := by
  have listed : ∀ (v : Value) (others : List Value), Holds (others.length + 1)
      (", ".toList.intercalate ((v :: others).map (fun _ => "?".toList))) := by
    intro v others
    induction others with
    | nil => exact ⟨rfl, rfl⟩
    | cons w others ih =>
      have separated : Holds 1 "?, ".toList := ⟨rfl, rfl⟩
      have joined := separated.append ih
      rw [Nat.add_comm] at joined
      exact joined
  cases values with
  | nil =>
    show Holds 0 "FALSE".toList
    exact ⟨rfl, rfl⟩
  | cons v others =>
    simp only [Predicate.memberText, String.toList_append, String.toList_intercalate, List.map_map,
      List.append_assoc]
    exact h.behind (.behind ⟨rfl, rfl⟩ ((listed v others).followed ⟨rfl, rfl⟩))

end FilterQuery.Sql
