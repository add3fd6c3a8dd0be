import FilterQuery.Toml.Document

/-!
# TOML codecs

Settings are read and written through a `Codec`: all that is asked of a library for TOML. What is
relied on is `Codec.Lawful`. Numbers are written in decimal, one a line; a record with a number that
TOML cannot hold is refused, since its integers are signed; and decimal integers are read as the
numbers that they write. `Codec.builtin` is the codec of this library.
-/

namespace FilterQuery.Toml

/-! ## 1. Lines -/

/-- A key that needs no quotes. -/
def IsBareKey (key : String) : Prop :=
  key.toList ≠ [] ∧ key.toList.all isBare = true

instance (key : String) : Decidable (IsBareKey key) :=
  inferInstanceAs (Decidable (_ ∧ _))

/-- A decimal integer without a sign: no zero stands in front of other digits. -/
structure IsNumeral (digits : List Char) : Prop where
  some_digit : digits ≠ []
  decimal : ∀ c ∈ digits, c.isDigit = true
  no_zero : digits.head? = some '0' → digits = ['0']

/-- The line that gives a decimal integer to a key. -/
def numeralLine (key : String) (digits : List Char) : List Char :=
  key.toList ++ ' ' :: '=' :: ' ' :: (digits ++ ['\n'])

/-- A document of such lines. -/
def numeralLines (lines : Entries (List Char)) : List Char :=
  lines.flatMap fun line => numeralLine line.1 line.2

/-! ## 2. Codecs -/

/-- What a library for TOML does with settings. -/
structure Codec where
  /-- The entries of a document. -/
  read? : String → Option (Entries Toml)
  /-- The document of a record of unsigned numbers. -/
  write? : Entries Nat → Option String

/-- **What is relied on.** Of documents that have other lines nothing is said. -/
structure Codec.Lawful (c : Codec) : Prop where
  /-- Each field is a line `key = decimal`. -/
  writes (fields : Entries Nat) (bare : ∀ field ∈ fields, IsBareKey field.1)
    (distinct : (fields.map Prod.fst).Nodup)
    (fits : ∀ field ∈ fields, field.2 ≤ Int64.maxValue.toInt) :
    c.write? fields = some (String.ofList
      (numeralLines (fields.map fun field => (field.1, Nat.toDigits 10 field.2))))
  /-- A 64-bit number above the signed ones is refused with its record. -/
  refuses (fields : Entries Nat) (unsigned : ∀ field ∈ fields, field.2 < UInt64.size)
    (large : ∃ field ∈ fields, Int64.maxValue.toInt < field.2) : c.write? fields = none
  /-- A decimal integer stands for the number that it writes, under the key of its line. -/
  reads (lines : Entries (List Char)) (bare : ∀ line ∈ lines, IsBareKey line.1)
    (distinct : (lines.map Prod.fst).Nodup) (numerals : ∀ line ∈ lines, IsNumeral line.2)
    (fits : ∀ line ∈ lines, Nat.ofDigitChars 10 line.2 0 ≤ Int64.maxValue.toInt) :
    ∃ entries, c.read? (String.ofList (numeralLines lines)) = some entries ∧
      ∀ line ∈ lines, ∃ n : Int64, entries.get? line.1 = some (.integer n) ∧
        n.toInt = Nat.ofDigitChars 10 line.2 0

/-! ## 3. The codec of this library -/

/-- The document of a record whose keys need no quotes. -/
def writeNumbers? (fields : Entries Nat) : Option String :=
  if ∀ field ∈ fields, field.2 ≤ Int64.maxValue.toInt then
    some (String.ofList
      (numeralLines (fields.map fun field => (field.1, Nat.toDigits 10 field.2))))
  else none

/-- The codec of this library. -/
def Codec.builtin : Codec where
  read? := readDocument?
  write? := writeNumbers?

end FilterQuery.Toml
