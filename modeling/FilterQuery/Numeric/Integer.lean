import FilterQuery.Error

/-!
# Reading whole numbers

Whole numbers are read from decimal digits of the ASCII range. Leading zeros are allowed; white
space, separators and an empty text are not.

* `readNatural?` -- the value of a text of digits;
* `readSigned?` -- the same with at most one sign in front;
* `readInt64?` -- a signed number, kept only if it fits 64 bits: never wrapped, never clamped;
* `readUnsigned64` -- an unsigned number, with the reason where there is none.
-/

namespace FilterQuery.Numeric

/-- The value of a text of one or more digits. -/
def readNatural? (text : List Char) : Option Nat :=
  if text ≠ [] ∧ text.all Char.isDigit then some (Nat.ofDigitChars 10 text 0) else none

/-- The value of a text of digits with at most one sign in front. -/
def readSigned? : List Char → Option Int
  | '+' :: digits => (readNatural? digits).map fun (n : Nat) => (n : Int)
  | '-' :: digits => (readNatural? digits).map fun (n : Nat) => -(n : Int)
  | digits => (readNatural? digits).map fun (n : Nat) => (n : Int)

/-- A number as a 64-bit one, if it is one. -/
def toInt64? (n : Int) : Option Int64 :=
  if Int64.minValue.toInt ≤ n ∧ n ≤ Int64.maxValue.toInt then some (Int64.ofInt n) else none

/-- The signed 64-bit number that a text writes. -/
def readInt64? (text : List Char) : Option Int64 :=
  (readSigned? text).bind toInt64?

/-- **Only the number itself stands for a number**: nothing is wrapped or clamped. -/
theorem toInt64?_eq_some_iff {n : Int} {m : Int64} : toInt64? n = some m ↔ m.toInt = n := by
  unfold toInt64?
  rw [Int64.toInt_minValue, Int64.toInt_maxValue]
  constructor
  · intro h
    split at h
    · next bounds =>
      simp only [Option.some.injEq] at h
      subst h
      have below : n < 2 ^ 63 := by omega
      exact Int64.toInt_ofInt_of_le bounds.1 below
    · cases h
  · intro h
    subst h
    have lower := Int64.le_toInt m
    have upper := Int64.toInt_lt m
    rw [if_pos ⟨lower, by omega⟩, Int64.ofInt_toInt]

/-! ## Unsigned 64-bit numbers -/

/-- Goes on from a value with the digits that follow; the first fault from the left decides, and a
    character that is no digit is a fault before the size is. -/
def extendUnsigned64 (value : Nat) : List Char → Except NumberFault Nat
  | [] => .ok value
  | c :: rest =>
    if c.isDigit then
      let next := 10 * value + (c.toNat - '0'.toNat)
      if next < UInt64.size then extendUnsigned64 next rest else .error .tooLarge
    else .error .invalidDigit

/-- The unsigned 64-bit number that a text writes, with at most one `+` in front. -/
def readUnsigned64 : List Char → Except NumberFault Nat
  | [] => .error .empty
  | ['+'] => .error .invalidDigit
  | '+' :: digits => extendUnsigned64 0 digits
  | digits => extendUnsigned64 0 digits

end FilterQuery.Numeric
