import FilterQuery.Attribute
import Mathlib.Data.List.Induction
import Mathlib.Data.List.TakeWhile
import Mathlib.Data.Nat.Digits.Defs

/-!
# Integers are kept exactly or dropped

An integer value is a text with white space around it, at most one sign and decimal digits. It is
kept exactly if the number that it writes fits 64 bits, however many digits it has, and every other
text is dropped.

* `Trimmed` -- what is left of a text without the white space at its ends; `trim` finds it;
* `Writes` -- the numbers that texts write, by the values of their places;
* `readInt64?_eq_some_iff` -- a text is read as a 64-bit number exactly if it writes that number;
* `Kind.clean_integer_iff` -- so cleaning neither wraps nor clamps.
-/

namespace FilterQuery

/-! ## 1. White space -/

namespace Text

/-- A text between white space, which it neither starts nor ends with. -/
def Trimmed (text core : List Char) : Prop :=
  ∃ before after, text = before ++ core ++ after ∧ (∀ c ∈ before ++ after, isBlank c = true) ∧
    (∀ c ∈ core.head?, isBlank c = false) ∧ ∀ c ∈ core.getLast?, isBlank c = false

theorem head_dropWhile (text : List Char) :
    ∀ c ∈ (text.dropWhile isBlank).head?, isBlank c = false := by
  intro c first
  have not_blank := List.head?_dropWhile_not isBlank text
  rw [first] at not_blank
  exact not_blank

theorem dropWhile_eq_self {text : List Char} (first : ∀ c ∈ text.head?, isBlank c = false) :
    text.dropWhile isBlank = text := by
  cases text with
  | nil => rfl
  | cons c text => rw [List.dropWhile_cons_of_neg (Bool.eq_false_iff.mp (first c rfl))]

theorem trimmed_trim (text : List Char) : Trimmed text (trim text) := by
  -- the white space at the start, and what is left behind it, read backwards
  have front := (List.takeWhile_append_dropWhile (p := isBlank) (l := text)).symm
  have back := (List.takeWhile_append_dropWhile (p := isBlank)
    (l := (text.dropWhile isBlank).reverse)).symm
  have middle : text.dropWhile isBlank =
      trim text ++ ((text.dropWhile isBlank).reverse.takeWhile isBlank).reverse := by
    rw [trim, ← List.reverse_append, ← back, List.reverse_reverse]
  refine ⟨text.takeWhile isBlank, ((text.dropWhile isBlank).reverse.takeWhile isBlank).reverse,
    ?_, ?_, ?_, ?_⟩
  · rw [List.append_assoc, ← middle, ← front]
  · refine List.forall_mem_append.mpr ⟨fun c hc => List.mem_takeWhile_imp hc, fun c hc => ?_⟩
    exact List.mem_takeWhile_imp (List.mem_reverse.mp hc)
  · intro c first
    refine head_dropWhile text c ?_
    rw [middle, List.head?_append, first]
    rfl
  · intro c last
    refine head_dropWhile (text.dropWhile isBlank).reverse c ?_
    rw [trim, List.getLast?_reverse] at last
    exact last

theorem trim_of_trimmed {text core : List Char} (h : Trimmed text core) : trim text = core := by
  obtain ⟨before, after, rfl, blank, first, last⟩ := h
  obtain ⟨blank_before, blank_after⟩ := List.forall_mem_append.mp blank
  have blank_behind : ∀ c ∈ after.reverse, isBlank c = true :=
    fun c hc => blank_after c (List.mem_reverse.mp hc)
  rw [trim, List.append_assoc, List.dropWhile_append_of_pos blank_before]
  cases core with
  | nil => rw [List.nil_append, List.dropWhile_eq_nil_iff.mpr blank_after]; rfl
  | cons c core =>
    have from_core : (c :: core ++ after).dropWhile isBlank = c :: core ++ after :=
      dropWhile_eq_self first
    have to_core : (c :: core).reverse.dropWhile isBlank = (c :: core).reverse := by
      refine dropWhile_eq_self ?_
      rw [List.head?_reverse]
      exact last
    rw [from_core, List.reverse_append, List.dropWhile_append_of_pos blank_behind, to_core,
      List.reverse_reverse]

end Text

/-! ## 2. Numbers and their texts -/

namespace Numeric

/-- The value of decimal digits, each counting ten times as much as the one behind it. -/
def placeValue (digits : List Char) : Nat :=
  Nat.ofDigits 10 (digits.reverse.map fun c => c.toNat - '0'.toNat)

/-- The texts of numbers: one or more digits with at most one sign in front. -/
inductive Writes : List Char → Int → Prop where
  | plain {digits : List Char} (some_digit : digits ≠ [])
      (decimal : ∀ c ∈ digits, c.isDigit = true) : Writes digits (placeValue digits)
  | plus {digits : List Char} (some_digit : digits ≠ [])
      (decimal : ∀ c ∈ digits, c.isDigit = true) : Writes ('+' :: digits) (placeValue digits)
  | minus {digits : List Char} (some_digit : digits ≠ [])
      (decimal : ∀ c ∈ digits, c.isDigit = true) : Writes ('-' :: digits) (-(placeValue digits))

theorem ofDigitChars_eq_placeValue (digits : List Char) :
    Nat.ofDigitChars 10 digits 0 = placeValue digits := by
  unfold placeValue
  induction digits using List.reverseRecOn with
  | nil => rfl
  | append_singleton digits c ih =>
    rw [Nat.ofDigitChars_append, ih, List.reverse_append, List.reverse_singleton,
      List.singleton_append, List.map_cons, Nat.ofDigits_cons, Nat.ofDigitChars_cons]
    exact Nat.add_comm _ _

theorem readNatural?_eq_some_iff {digits : List Char} {n : Nat} :
    readNatural? digits = some n ↔
      digits ≠ [] ∧ (∀ c ∈ digits, c.isDigit = true) ∧ n = placeValue digits := by
  unfold readNatural?
  rw [ofDigitChars_eq_placeValue]
  split
  · next digit =>
    rw [Option.some.injEq]
    exact ⟨fun same => ⟨digit.1, List.all_eq_true.mp digit.2, same.symm⟩,
      fun given => given.2.2.symm⟩
  · next other =>
    constructor
    · intro h
      cases h
    · intro given
      exact absurd ⟨given.1, List.all_eq_true.mpr given.2.1⟩ other

/-- **Signed numbers are read as they are written.** -/
theorem readSigned?_eq_some_iff {text : List Char} {n : Int} :
    readSigned? text = some n ↔ Writes text n := by
  constructor
  · intro h
    unfold readSigned? at h
    split at h
    · obtain ⟨m, read, rfl⟩ := Option.map_eq_some_iff.mp h
      obtain ⟨some_digit, decimal, rfl⟩ := readNatural?_eq_some_iff.mp read
      exact .plus some_digit decimal
    · obtain ⟨m, read, rfl⟩ := Option.map_eq_some_iff.mp h
      obtain ⟨some_digit, decimal, rfl⟩ := readNatural?_eq_some_iff.mp read
      exact .minus some_digit decimal
    · obtain ⟨m, read, rfl⟩ := Option.map_eq_some_iff.mp h
      obtain ⟨some_digit, decimal, rfl⟩ := readNatural?_eq_some_iff.mp read
      exact .plain some_digit decimal
  · intro writes
    cases writes with
    | plain some_digit decimal =>
      have read := readNatural?_eq_some_iff.mpr ⟨some_digit, decimal, rfl⟩
      unfold readSigned?
      split
      · cases decimal '+' List.mem_cons_self
      · cases decimal '-' List.mem_cons_self
      · rw [read]
        rfl
    | @plus digits some_digit decimal =>
      show (readNatural? digits).map _ = _
      rw [readNatural?_eq_some_iff.mpr ⟨some_digit, decimal, rfl⟩]
      rfl
    | @minus digits some_digit decimal =>
      show (readNatural? digits).map _ = _
      rw [readNatural?_eq_some_iff.mpr ⟨some_digit, decimal, rfl⟩]
      rfl

/-- **A 64-bit number is read exactly from the texts that write it.** -/
theorem readInt64?_eq_some_iff {text : List Char} {n : Int64} :
    readInt64? text = some n ↔ Writes text n.toInt := by
  unfold readInt64?
  rw [Option.bind_eq_some_iff]
  constructor
  · intro ⟨m, read, fits⟩
    rw [toInt64?_eq_some_iff.mp fits]
    exact readSigned?_eq_some_iff.mp read
  · intro writes
    exact ⟨n.toInt, readSigned?_eq_some_iff.mpr writes, toInt64?_eq_some_iff.mpr rfl⟩

/-! ## 3. Canonical texts with zeros in front -/

/-- The decimal text of a number, with more zeros in front of its digits. -/
def paddedText (zeros : Nat) (n : Int) : List Char :=
  (if n < 0 then ['-'] else []) ++ (List.replicate zeros '0' ++ Nat.toDigits 10 n.natAbs)

theorem paddedText_zero (n : Int) : paddedText 0 n = (toString n).toList := by
  unfold paddedText
  rw [List.replicate_zero, List.nil_append, Int.toString_eq_repr]
  cases n with
  | ofNat m =>
    have not_negative : ¬ Int.ofNat m < 0 := Int.not_lt.mpr (Int.natCast_nonneg m)
    rw [if_neg not_negative]
    exact Nat.toList_repr.symm
  | negSucc m =>
    rw [if_pos (Int.negSucc_lt_zero m), Int.repr, String.toList_append, Nat.toList_repr]
    rfl

theorem placeValue_replicate_append (zeros : Nat) (digits : List Char) :
    placeValue (List.replicate zeros '0' ++ digits) = placeValue digits := by
  unfold placeValue
  rw [List.reverse_append, List.reverse_replicate, List.map_append, List.map_replicate]
  exact Nat.ofDigits_append_replicate_zero _

theorem placeValue_toDigits (n : Nat) : placeValue (Nat.toDigits 10 n) = n := by
  rw [← ofDigitChars_eq_placeValue, Nat.ofDigitChars_toDigits (by decide) (by decide)]

/-- Zeros in front of the digits do not change the number. -/
theorem writes_paddedText (zeros : Nat) (n : Int) : Writes (paddedText zeros n) n := by
  have some_digit : List.replicate zeros '0' ++ Nat.toDigits 10 n.natAbs ≠ [] :=
    List.append_ne_nil_of_right_ne_nil _ Nat.toDigits_ne_nil
  have decimal : ∀ c ∈ List.replicate zeros '0' ++ Nat.toDigits 10 n.natAbs,
      c.isDigit = true := by
    refine List.forall_mem_append.mpr ⟨fun c hc => ?_, fun c hc => ?_⟩
    · rw [List.eq_of_mem_replicate hc]
      rfl
    · exact Nat.isDigit_of_mem_toDigits (by decide) (by decide) hc
  have value : placeValue (List.replicate zeros '0' ++ Nat.toDigits 10 n.natAbs) = n.natAbs := by
    rw [placeValue_replicate_append, placeValue_toDigits]
  unfold paddedText
  by_cases negative : n < 0
  · have writes := Writes.minus some_digit decimal
    rw [value] at writes
    rw [if_pos negative]
    have same : -(n.natAbs : Int) = n := by omega
    rw [same] at writes
    exact writes
  · have writes := Writes.plain some_digit decimal
    rw [value] at writes
    rw [if_neg negative]
    have same : (n.natAbs : Int) = n := by omega
    rw [same] at writes
    exact writes

theorem isBlank_of_isDigit {c : Char} (h : c.isDigit = true) : Text.isBlank c = false := by
  have digit : 48 ≤ c.toNat ∧ c.toNat ≤ 57 := by
    simpa [Char.isDigit, UInt32.le_iff_toNat_le] using h
  simp [Text.isBlank]
  omega

/-- A text that writes a number neither starts nor ends with white space. -/
theorem Writes.trimmed {core : List Char} {n : Int} (h : Writes core n) {before after : List Char}
    (blank : ∀ c ∈ before ++ after, Text.isBlank c = true) :
    Text.Trimmed (before ++ core ++ after) core := by
  have first : ∀ {digits : List Char}, (∀ c ∈ digits, c.isDigit = true) →
      ∀ c ∈ digits.head?, Text.isBlank c = false :=
    fun decimal c hc => isBlank_of_isDigit (decimal c (List.mem_of_mem_head? hc))
  have last : ∀ {digits : List Char}, (∀ c ∈ digits, c.isDigit = true) →
      ∀ c ∈ digits.getLast?, Text.isBlank c = false :=
    fun decimal c hc => isBlank_of_isDigit (decimal c (List.mem_of_mem_getLast? hc))
  have signed : ∀ {sign : Char} {digits : List Char}, Text.isBlank sign = false → digits ≠ [] →
      (∀ c ∈ digits, c.isDigit = true) →
      (∀ c ∈ (sign :: digits).head?, Text.isBlank c = false) ∧
        ∀ c ∈ (sign :: digits).getLast?, Text.isBlank c = false := by
    intro sign digits plain some_digit decimal
    refine ⟨fun c hc => ?_, fun c hc => last decimal c ?_⟩
    · rw [← Option.some.inj hc]
      exact plain
    · rw [List.getLast?_cons_of_ne_nil some_digit] at hc
      exact hc
  refine ⟨before, after, rfl, blank, ?_⟩
  cases h with
  | plain some_digit decimal => exact ⟨first decimal, last decimal⟩
  | plus some_digit decimal => exact signed (by decide) some_digit decimal
  | minus some_digit decimal => exact signed (by decide) some_digit decimal

end Numeric

/-! ## 4. Cleaning -/

open Numeric Text

theorem Kind.clean_integer_eq_some_iff {raw : String} {n : Int64} :
    Kind.integer.clean raw = some (.integer n) ↔
      ∃ core, Trimmed raw.toList core ∧ Writes core n.toInt := by
  have cleaned : Kind.integer.clean raw = (readInt64? (trim raw.toList)).map .integer := rfl
  rw [cleaned, Option.map_eq_some_iff]
  constructor
  · intro ⟨m, read, same⟩
    obtain rfl : m = n := Value.integer.inj same
    exact ⟨trim raw.toList, trimmed_trim _, readInt64?_eq_some_iff.mp read⟩
  · intro ⟨core, trimmed, writes⟩
    rw [trim_of_trimmed trimmed]
    exact ⟨n, readInt64?_eq_some_iff.mpr writes, rfl⟩

theorem Kind.clean_integer_eq_none_iff {raw : String} :
    Kind.integer.clean raw = none ↔ ∀ n : Int64, Kind.integer.clean raw ≠ some (.integer n) := by
  have cleaned : Kind.integer.clean raw = (readInt64? (trim raw.toList)).map .integer := rfl
  rw [cleaned]
  cases readInt64? (trim raw.toList) with
  | none => simp
  | some n => simp

/-- **Integers are kept exactly or dropped**: a raw text is cleaned to the number that it writes
    between white space, if that fits 64 bits, and every other text is dropped. So the decimal text
    of a number is cleaned to that number, whatever white space stands around it and however many
    zeros in front of its digits. -/
theorem Kind.clean_integer_iff (raw : String) :
    (∀ n : Int64, Kind.integer.clean raw = some (.integer n) ↔
      ∃ core, Trimmed raw.toList core ∧ Writes core n.toInt) ∧
    (Kind.integer.clean raw = none ↔
      ¬ ∃ n core, Trimmed raw.toList core ∧ Writes core n ∧ -2 ^ 63 ≤ n ∧ n ≤ 2 ^ 63 - 1) ∧
    ∀ (n : Int64) (zeros : Nat) (before after : List Char),
      (∀ c ∈ before ++ after, isBlank c = true) →
      raw.toList = before ++ paddedText zeros n.toInt ++ after →
      Kind.integer.clean raw = some (.integer n) := by
  refine ⟨fun n => Kind.clean_integer_eq_some_iff, ?_, ?_⟩
  · rw [Kind.clean_integer_eq_none_iff]
    constructor
    · intro dropped ⟨n, core, trimmed, writes, lower, upper⟩
      have fits : (Int64.ofInt n).toInt = n := Int64.toInt_ofInt_of_le lower (by omega)
      rw [← fits] at writes
      exact dropped (Int64.ofInt n) (Kind.clean_integer_eq_some_iff.mpr ⟨core, trimmed, writes⟩)
    · intro unwritten n kept
      obtain ⟨core, trimmed, writes⟩ := Kind.clean_integer_eq_some_iff.mp kept
      have lower := Int64.le_toInt n
      have upper := Int64.toInt_lt n
      exact unwritten ⟨n.toInt, core, trimmed, writes, lower, by omega⟩
  · intro n zeros before after blank raw_eq
    have writes := writes_paddedText zeros n.toInt
    have trimmed := writes.trimmed blank
    rw [← raw_eq] at trimmed
    exact Kind.clean_integer_eq_some_iff.mpr ⟨_, trimmed, writes⟩

/-- The least number of 64 bits, with three zeros in front of its digits and white space around. -/
theorem Kind.clean_integer_iff_least :
    "\u2003-0009223372036854775808\t".toList =
        ['\u2003'] ++ paddedText 3 Int64.minValue.toInt ++ ['\t'] ∧
      Kind.integer.clean "\u2003-0009223372036854775808\t" = some (.integer Int64.minValue) := by
  have raw_eq : "\u2003-0009223372036854775808\t".toList =
      ['\u2003'] ++ paddedText 3 Int64.minValue.toInt ++ ['\t'] := by decide
  have blank : ∀ c ∈ ['\u2003'] ++ ['\t'], isBlank c = true := List.all_eq_true.mp rfl
  exact ⟨raw_eq, (Kind.clean_integer_iff _).2.2 Int64.minValue 3 ['\u2003'] ['\t'] blank raw_eq⟩

end FilterQuery
