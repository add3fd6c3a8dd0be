import FilterQuery.Toml.Codec
import Mathlib.Data.List.TakeWhile

/-!
# Lines of integers

A TOML document may hold nothing but lines `key = number`, with a bare key and the decimal digits of
a number that fits 64 bits. Such a document is read as just these entries, in order
(`readDocument?_lines`), so the codec of this library keeps its laws (`Codec.lawful_builtin`).

* `isNumeral_toDigits` -- the digits of a number are a numeral;
* `line_ne_cons` -- behind digits stands the end of the line, so that neither a mark nor a letter
  comes next; therefore digits are neither a date nor a time (`skipMoment?_digits`);
* `readValue_numeral` -- so a numeral is read as the integer that it writes;
* `readStatements_lines`, `run_assign` -- a line is a statement, and a statement is an entry.
-/

namespace FilterQuery.Toml

open Numeric (Decimal.readSign toInt64?_eq_some_iff)

/-! ## 1. Digits -/

theorem toDigits_decimal (n : Nat) : ∀ c ∈ Nat.toDigits 10 n, c.isDigit = true :=
  fun _ h => Nat.isDigit_of_mem_toDigits (by decide) (by decide) h

/-- Only zero is written with a zero in front. -/
theorem head_toDigits (n : Nat) (positive : 0 < n) : (Nat.toDigits 10 n).head? ≠ some '0' := by
  induction n using Nat.strongRecOn with
  | ind n ih =>
    by_cases single : n < 10
    · rw [Nat.toDigits_of_lt_base single]
      have digits : ∀ d : Fin 10, 0 < d.val → [Nat.digitChar d.val].head? ≠ some '0' := by decide
      exact digits ⟨n, single⟩ positive
    · obtain ⟨c, front, front_eq⟩ := List.exists_cons_of_ne_nil
        (Nat.toDigits_ne_nil (n := n / 10) (b := 10))
      have not_zero := ih (n / 10) (by omega) (by omega)
      rw [front_eq] at not_zero
      rw [Nat.toDigits_of_base_le (by decide) (Nat.le_of_not_lt single), front_eq]
      exact not_zero

/-- **The decimal digits of a number are a numeral.** -/
theorem isNumeral_toDigits (n : Nat) : IsNumeral (Nat.toDigits 10 n) where
  some_digit := Nat.toDigits_ne_nil
  decimal := toDigits_decimal n
  no_zero zero := by
    have not_positive : ¬ 0 < n := fun positive => head_toDigits n positive zero
    obtain rfl : n = 0 := by omega
    rfl

/-- **Behind digits a line ends**: no other character comes next. -/
theorem line_ne_cons {digits : List Char} (decimal : ∀ c ∈ digits, c.isDigit = true) {mark : Char}
    (not_digit : mark.isDigit = false) (not_end : mark ≠ '\n') (rest after : List Char) :
    digits ++ '\n' :: rest ≠ mark :: after := by
  intro same
  cases digits with
  | nil => exact not_end (List.cons.inj same).1.symm
  | cons d digits =>
    obtain ⟨rfl, -⟩ := List.cons.inj same
    rw [decimal d List.mem_cons_self] at not_digit
    cases not_digit

/-- The end of the line stops a reader of digits. -/
theorem moreDigits_digits {digits : List Char} (decimal : ∀ c ∈ digits, c.isDigit = true)
    (rest : List Char) :
    moreDigits Char.isDigit (digits ++ '\n' :: rest) = (digits, '\n' :: rest) := by
  induction digits with
  | nil => rfl
  | cons c digits ih =>
    obtain ⟨digit, others⟩ := List.forall_mem_cons.mp decimal
    rw [List.cons_append]
    unfold moreDigits
    split
    · next same => cases same
    · next same => exact absurd same (line_ne_cons decimal (by decide) (by decide) rest _)
    · next same =>
      obtain ⟨rfl, rfl⟩ := List.cons.inj same
      rw [if_pos digit, ih others]

/-! ## 2. Neither dates nor times -/

/-- A field of digits leaves digits in front of the end of the line. -/
theorem readField?_digits {digits rest after : List Char} {width low high n : Nat}
    (h : readField? width low high (digits ++ '\n' :: rest) = some (n, after)) :
    after = digits.drop width ++ '\n' :: rest := by
  unfold readField? at h
  simp only at h
  split at h
  · next full =>
    have inside : width ≤ digits.length := by
      -- otherwise the end of the line would be among the digits of the field
      refine Nat.le_of_not_lt fun short => ?_
      obtain ⟨more, more_eq⟩ : ∃ more, width - digits.length = more + 1 :=
        ⟨width - digits.length - 1, by omega⟩
      have taken : '\n' ∈ (digits ++ '\n' :: rest).take width := by
        rw [List.take_append, List.mem_append, more_eq, List.take_succ_cons]
        exact .inr List.mem_cons_self
      cases List.all_eq_true.mp full.2 '\n' taken
    split at h
    · cases h
      exact List.drop_append_of_le_length inside
    · cases h
  · cases h

/-- Behind a field no mark stands. -/
theorem expect?_field {digits after : List Char} (decimal : ∀ c ∈ digits, c.isDigit = true)
    {width low high n : Nat} {rest : List Char}
    (h : readField? width low high (digits ++ '\n' :: rest) = some (n, after)) {mark : Char}
    (not_digit : mark.isDigit = false) (not_end : mark ≠ '\n') : expect? mark after = none := by
  have still : ∀ c ∈ digits.drop width, c.isDigit = true :=
    fun c hc => decimal c (List.mem_of_mem_drop hc)
  rw [readField?_digits h]
  unfold expect?
  split
  · next c more same =>
    refine if_neg ?_
    rintro rfl
    exact line_ne_cons still not_digit not_end rest more same
  · rfl

theorem skipMoment?_digits {digits : List Char} (decimal : ∀ c ∈ digits, c.isDigit = true)
    (rest : List Char) : skipMoment? (digits ++ '\n' :: rest) = none := by
  have no_date : skipDate? (digits ++ '\n' :: rest) = none := by
    unfold skipDate?
    cases read : readField? 4 0 9999 (digits ++ '\n' :: rest) with
    | none => rfl
    | some field =>
      have stuck : expect? '-' field.2 = none := expect?_field decimal read rfl (by decide)
      simp only [Option.bind_eq_bind, Option.bind_some, stuck, Option.bind_none]
  have no_time : skipTime? (digits ++ '\n' :: rest) = none := by
    unfold skipTime?
    cases read : readField? 2 0 23 (digits ++ '\n' :: rest) with
    | none => rfl
    | some field =>
      have stuck : expect? ':' field.2 = none := expect?_field decimal read rfl (by decide)
      simp only [Option.bind_eq_bind, Option.bind_some, stuck, Option.bind_none]
  unfold skipMoment?
  rw [no_date, no_time]

/-! ## 3. Integers -/

theorem readWhole_numeral {digits : List Char} (numeral : IsNumeral digits) (rest : List Char) :
    readWhole (digits ++ '\n' :: rest) = some (digits, '\n' :: rest) := by
  obtain ⟨some_digit, decimal, no_zero⟩ := numeral
  obtain ⟨c, digits, rfl⟩ := List.exists_cons_of_ne_nil some_digit
  obtain ⟨digit, others⟩ := List.forall_mem_cons.mp decimal
  unfold readWhole
  split
  · next same =>
    obtain ⟨rfl, rfl⟩ := List.cons.inj same
    obtain rfl := (List.cons.inj (no_zero rfl)).2
    rfl
  · simp only [List.cons_append, readDigits, digit, if_true, moreDigits_digits others]

theorem readSign_digits {digits : List Char} (decimal : ∀ c ∈ digits, c.isDigit = true)
    (rest : List Char) :
    Decimal.readSign (digits ++ '\n' :: rest) = (false, digits ++ '\n' :: rest) := by
  unfold Decimal.readSign
  split
  · next same => exact absurd same (line_ne_cons decimal (by decide) (by decide) rest _)
  · next same => exact absurd same (line_ne_cons decimal (by decide) (by decide) rest _)
  · rfl

section Numerals

variable {digits : List Char} (numeral : IsNumeral digits) {n : Int64}
  (value : n.toInt = Nat.ofDigitChars 10 digits 0)

include numeral value

theorem readDecimal_numeral (rest : List Char) :
    readDecimal false (digits ++ '\n' :: rest) = some (.integer n, '\n' :: rest) := by
  have decimal := numeral.decimal
  have integer : readDecimal.integerOf? false digits = some (.integer n) := by
    unfold readDecimal.integerOf?
    simp only [Bool.false_eq_true, if_false, toInt64?_eq_some_iff.mpr value,
      Option.map_some]
  unfold readDecimal
  split
  · next same => exact absurd same (line_ne_cons decimal (by decide) (by decide) rest _)
  · next same => exact absurd same (line_ne_cons decimal (by decide) (by decide) rest _)
  · rw [readWhole_numeral numeral]
    simp [integer]

theorem readNumber_numeral (rest : List Char) :
    readNumber (digits ++ '\n' :: rest) = some (.integer n, '\n' :: rest) := by
  have decimal := numeral.decimal
  -- the mark of a radix would stand behind the first digit
  have no_radix : ∀ {mark : Char} {after : List Char}, mark.isDigit = false → mark ≠ '\n' →
      digits ++ '\n' :: rest ≠ '0' :: mark :: after := by
    intro mark after not_digit not_end same
    obtain ⟨d, digits, rfl⟩ := List.exists_cons_of_ne_nil numeral.some_digit
    obtain ⟨-, others⟩ := List.forall_mem_cons.mp decimal
    exact line_ne_cons others not_digit not_end rest after (List.cons.inj same).2
  unfold readNumber
  split
  · next same => exact absurd same (no_radix (by decide) (by decide))
  · next same => exact absurd same (no_radix (by decide) (by decide))
  · next same => exact absurd same (no_radix (by decide) (by decide))
  · rw [readSign_digits decimal]
    exact readDecimal_numeral numeral value rest

/-- **A numeral at the end of a line is an integer.** -/
theorem readValue_numeral (depth : Nat) (rest : List Char) :
    readValue depth (digits ++ '\n' :: rest) = some (.integer n, '\n' :: rest) := by
  have decimal := numeral.decimal
  have scalar : readScalar (digits ++ '\n' :: rest) = some (.integer n, '\n' :: rest) := by
    unfold readScalar
    split
    · next same => exact absurd same (line_ne_cons decimal (by decide) (by decide) rest _)
    · next same => exact absurd same (line_ne_cons decimal (by decide) (by decide) rest _)
    · next same => exact absurd same (line_ne_cons decimal (by decide) (by decide) rest _)
    · next same => exact absurd same (line_ne_cons decimal (by decide) (by decide) rest _)
    · rw [skipMoment?_digits decimal]
      exact readNumber_numeral numeral value rest
  unfold readValue
  split
  · next same => exact absurd same (line_ne_cons decimal (by decide) (by decide) rest _)
  · next same => exact absurd same (line_ne_cons decimal (by decide) (by decide) rest _)
  · exact scalar

end Numerals

/-! ## 4. Lines -/

/-- **At a bare key a key starts**, and nothing else does. -/
theorem bareKey_ne_cons {key : String} (bare : IsBareKey key) {mark : Char}
    (not_bare : isBare mark = false) (rest after : List Char) :
    key.toList ++ rest ≠ mark :: after := by
  intro same
  obtain ⟨some_char, all_bare⟩ := bare
  cases chars_eq : key.toList with
  | nil => exact some_char chars_eq
  | cons c chars =>
    rw [chars_eq] at same all_bare
    obtain ⟨rfl, -⟩ := List.cons.inj same
    rw [List.all_eq_true.mp all_bare c List.mem_cons_self] at not_bare
    cases not_bare

/-- A text that starts with no blank is left as it is. -/
theorem skipSpaces_eq_self {text : List Char} (no_blank : ∀ rest, text ≠ ' ' :: rest)
    (no_tab : ∀ rest, text ≠ '\t' :: rest) : skipSpaces text = text := by
  cases text with
  | nil => rfl
  | cons c chars =>
    refine List.dropWhile_cons_of_neg fun space => ?_
    rcases Bool.or_eq_true_iff.mp space with same | same
    · exact no_blank chars (congrArg (· :: chars) (eq_of_beq same))
    · exact no_tab chars (congrArg (· :: chars) (eq_of_beq same))

theorem skipSpaces_bareKey {key : String} (bare : IsBareKey key) (rest : List Char) :
    skipSpaces (key.toList ++ rest) = key.toList ++ rest :=
  skipSpaces_eq_self (bareKey_ne_cons bare (by decide) rest) (bareKey_ne_cons bare (by decide) rest)

theorem readComponent_bareKey {key : String} (bare : IsBareKey key) (rest : List Char) :
    readComponent (key.toList ++ ' ' :: rest) = some (key, ' ' :: rest) := by
  have all_bare := List.all_eq_true.mp bare.2
  have front : (key.toList ++ ' ' :: rest).takeWhile isBare = key.toList := by
    rw [List.takeWhile_append_of_pos all_bare, List.takeWhile_cons_of_neg (by decide),
      List.append_nil]
  have back : (key.toList ++ ' ' :: rest).dropWhile isBare = ' ' :: rest := by
    rw [List.dropWhile_append_of_pos all_bare, List.dropWhile_cons_of_neg (by decide)]
  unfold readComponent
  split
  · next same => exact absurd same (bareKey_ne_cons bare (by decide) _ _)
  · next same => exact absurd same (bareKey_ne_cons bare (by decide) _ _)
  · rw [front, back, if_neg bare.1]
    simp only [Option.map_some, String.ofList_toList]

/-- A bare key is read up to the sign behind it. -/
theorem readKey_bareKey {key : String} (bare : IsBareKey key) {room : Nat} (some_room : 0 < room)
    (rest : List Char) :
    readKey room (key.toList ++ ' ' :: '=' :: rest) = some ([key], '=' :: rest) := by
  cases room with
  | zero => cases some_room
  | succ room =>
    unfold readKey
    rw [skipSpaces_bareKey bare, readComponent_bareKey bare]
    rfl

section Lines

variable {key : String} (bare : IsBareKey key) {digits : List Char} (numeral : IsNumeral digits)
  {n : Int64} (value : n.toInt = Nat.ofDigitChars 10 digits 0)

include bare numeral value

theorem readStatement_line (rest : List Char) :
    readStatement (numeralLine key digits ++ rest) =
      some (.assign [key] (.integer n), '\n' :: rest) := by
  have line_eq : numeralLine key digits ++ rest =
      key.toList ++ ' ' :: '=' :: ' ' :: (digits ++ '\n' :: rest) := by
    simp only [numeralLine, List.append_assoc, List.cons_append, List.nil_append]
  have unspaced : skipSpaces (' ' :: (digits ++ '\n' :: rest)) = digits ++ '\n' :: rest :=
    skipSpaces_eq_self (line_ne_cons numeral.decimal (by decide) (by decide) rest)
      (line_ne_cons numeral.decimal (by decide) (by decide) rest)
  have pair : readPair (readValue maxNesting) (numeralLine key digits ++ rest) =
      some (([key], .integer n), '\n' :: rest) := by
    have key_read : readKey maxNesting (numeralLine key digits ++ rest) = _ :=
      line_eq ▸ readKey_bareKey bare (by decide) _
    unfold readPair
    rw [key_read]
    simp only [Option.bind_eq_bind, Option.bind_some, unspaced, readValue_numeral numeral value]
    rfl
  unfold readStatement
  split
  · next same => exact absurd (line_eq ▸ same) (bareKey_ne_cons bare (by decide) _ _)
  · next same => exact absurd (line_eq ▸ same) (bareKey_ne_cons bare (by decide) _ _)
  · rw [pair]
    rfl

/-- **A line is a statement.** -/
theorem readStatements_line (rest : List Char) :
    readStatements (numeralLine key digits ++ rest) =
      (readStatements rest).map (Statement.assign [key] (.integer n) :: ·) := by
  obtain ⟨behind, line_eq⟩ : ∃ behind, numeralLine key digits ++ rest = key.toList ++ behind :=
    ⟨_, List.append_assoc ..⟩
  have not_empty : startsEmptyLine (key.toList ++ behind) = false := by
    unfold startsEmptyLine
    split
    · next same => exact absurd same (bareKey_ne_cons bare (by decide) _ _)
    · next same => exact absurd same (bareKey_ne_cons bare (by decide) _ _)
    · next same => exact absurd same (bareKey_ne_cons bare (by decide) _ _)
    · rfl
  have shorter : rest.length < (numeralLine key digits ++ rest).length := by
    simp only [numeralLine, List.length_append, List.length_cons]
    omega
  have statement := readStatement_line bare numeral value rest
  have ended : endLine? ('\n' :: rest) = some rest := rfl
  rw [readStatements]
  rw [line_eq] at statement shorter ⊢
  rw [skipSpaces_bareKey bare]
  split
  · next same => exact absurd (List.append_eq_nil_iff.mp same).1 bare.1
  · rw [if_neg (by simp [not_empty]), statement]
    simp only [Option.bind_eq_bind, Option.bind_some, ended, dif_pos shorter]
    cases readStatements rest <;> rfl

end Lines

/-! ## 5. Documents -/

/-- The entries of a document of numerals. -/
def numeralEntries (lines : Entries (List Char)) : Entries Toml :=
  lines.map fun line => (line.1, .integer (Int64.ofInt (Nat.ofDigitChars 10 line.2 0)))

/-- A number that fits 64 bits is kept. -/
theorem toInt_ofInt_of_fits {n : Nat} (fits : n ≤ Int64.maxValue.toInt) :
    (Int64.ofInt n).toInt = n := by
  rw [Int64.toInt_maxValue] at fits
  exact Int64.toInt_ofInt_of_le (by omega) (by omega)

/-- **A statement is an entry**: a key that is not there yet is added behind the others. -/
theorem run_assign {d : Draft} (top : d.current = []) {key : String}
    (new : d.root.get? key = none) (value : Toml) :
    d.run (.assign [key] value) = some { d with root := d.root ++ [(key, value)] } := by
  have assigned : assignPath .header d.root [key] value = some (d.root ++ [(key, value)]) := by
    change (if (d.root.get? key).isSome then none else some (d.root ++ [(key, value)])) = _
    rw [new]
    rfl
  unfold Draft.run
  rw [top]
  exact congrArg (Option.map _) assigned

/-- Keys that are all different are added in their order. -/
theorem run_assignments : ∀ (entries : Entries Toml) (d : Draft), d.current = [] →
    ((d.root ++ entries).map Prod.fst).Nodup →
    (entries.map fun entry => Statement.assign [entry.1] entry.2).foldlM Draft.run d =
      some { d with root := d.root ++ entries }
  | [], d, _, _ => by
    rw [List.append_nil]
    rfl
  | (key, value) :: entries, d, top, distinct => by
    have new : d.root.get? key = none := by
      refine (Entries.get?_eq_none_iff d.root).mpr fun there => ?_
      rw [List.map_append, List.nodup_append] at distinct
      exact distinct.2.2 key there key List.mem_cons_self rfl
    rw [List.append_cons] at distinct ⊢
    have rest := run_assignments entries { d with root := d.root ++ [(key, value)] } top distinct
    rw [List.map_cons, List.foldlM_cons, run_assign top new]
    exact rest

section Documents

variable {lines : Entries (List Char)} (bare : ∀ line ∈ lines, IsBareKey line.1)
  (numerals : ∀ line ∈ lines, IsNumeral line.2)
  (fits : ∀ line ∈ lines, Nat.ofDigitChars 10 line.2 0 ≤ Int64.maxValue.toInt)

include bare numerals fits

theorem readStatements_lines : readStatements (numeralLines lines) =
    some ((numeralEntries lines).map fun entry => .assign [entry.1] entry.2) := by
  induction lines with
  | nil =>
    rw [numeralLines, List.flatMap_nil, readStatements]
    rfl
  | cons line lines ih =>
    obtain ⟨bare_line, bare_lines⟩ := List.forall_mem_cons.mp bare
    obtain ⟨numeral, numerals⟩ := List.forall_mem_cons.mp numerals
    obtain ⟨fits_line, fits_lines⟩ := List.forall_mem_cons.mp fits
    have rest := ih bare_lines numerals fits_lines
    rw [numeralLines, List.flatMap_cons,
      readStatements_line bare_line numeral (toInt_ofInt_of_fits fits_line)]
    exact congrArg (Option.map _) rest

/-- **A document of lines is read as its entries.** -/
theorem readDocument?_lines (distinct : (lines.map Prod.fst).Nodup) :
    readDocument? (String.ofList (numeralLines lines)) = some (numeralEntries lines) := by
  have no_mark : skipByteOrderMark (numeralLines lines) = numeralLines lines := by
    cases lines with
    | nil => rfl
    | cons line lines =>
      obtain ⟨bare_line, -⟩ := List.forall_mem_cons.mp bare
      unfold skipByteOrderMark
      split
      · next same =>
        rw [numeralLines, List.flatMap_cons, numeralLine, List.append_assoc] at same
        exact absurd same (bareKey_ne_cons bare_line (by decide) _ _)
      · rfl
  have keys : (([] ++ numeralEntries lines).map Prod.fst).Nodup := by
    rw [List.nil_append, numeralEntries, List.map_map]
    exact distinct
  have built := run_assignments (numeralEntries lines) { root := [], current := [] } rfl keys
  unfold readDocument?
  rw [String.toList_ofList, no_mark, readStatements_lines bare numerals fits]
  simp only [Option.bind_eq_bind, Option.bind_some, built]
  rfl

end Documents

/-! ## 6. The codec of this library -/

/-- **The codec of this library keeps its laws.** -/
theorem Codec.lawful_builtin : Codec.builtin.Lawful where
  writes _ _ _ fits := if_pos fits
  refuses _ _ large := by
    obtain ⟨field, there, large⟩ := large
    exact if_neg fun fits => absurd (fits field there) (Int.not_le.mpr large)
  reads lines bare distinct numerals fits := by
    refine ⟨_, readDocument?_lines bare numerals fits distinct, fun line there => ?_⟩
    have keys : ((numeralEntries lines).map Prod.fst).Nodup := by
      rw [numeralEntries, List.map_map]
      exact distinct
    exact ⟨_, Entries.get?_of_mem keys (List.mem_map_of_mem there),
      toInt_ofInt_of_fits (fits line there)⟩

end FilterQuery.Toml
