import FilterQuery.Numeric.Decimal
import FilterQuery.Numeric.Integer
import FilterQuery.Text.CodePoint
import FilterQuery.Toml
import FilterQuery.Toml.Text

/-!
# Numbers in TOML

* Integers are decimal with an optional sign and no leading zero, or hexadecimal, octal or binary
  behind `0x`, `0o`, `0b`. They fit a signed 64-bit number.
* Floating-point numbers have a fraction, an exponent or both, or are `inf` or `nan`. A number too
  large to be finite is refused, a negative one of that size is the negative infinity.
* A single `_` may stand between two digits.
-/

namespace FilterQuery.Toml

open FilterQuery.Numeric (Decimal toInt64?)

/-- Further digits, with at most one `_` in front of each. -/
def moreDigits (isDigit : Char → Bool) : List Char → List Char × List Char
  | [] => ([], [])
  | '_' :: c :: rest =>
    if isDigit c then
      let (digits, rest) := moreDigits isDigit rest
      (c :: digits, rest)
    else ([], '_' :: c :: rest)
  | c :: rest =>
    if isDigit c then
      let (digits, rest) := moreDigits isDigit rest
      (c :: digits, rest)
    else ([], c :: rest)

/-- Digits, the first one without `_` in front. -/
def readDigits (isDigit : Char → Bool) : Reader (List Char)
  | [] => none
  | c :: rest =>
    if isDigit c then
      let (digits, rest) := moreDigits isDigit rest
      some (c :: digits, rest)
    else none

/-- The whole part of a decimal number: no digit follows a leading zero. -/
def readWhole : Reader (List Char)
  | '0' :: rest => some (['0'], rest)
  | text => readDigits Char.isDigit text

/-- The exponent at the start of a text; zero where there is none. -/
def readExponent : Reader Int := fun text =>
  match text with
  | c :: rest =>
    if c = 'e' ∨ c = 'E' then do
      let (negative, rest) := Decimal.readSign rest
      let (digits, rest) ← readDigits Char.isDigit rest
      let size := Nat.ofDigitChars 10 digits 0
      return (if negative then -size else size, rest)
    else some (0, text)
  | [] => some (0, [])

/-- An integer in a radix, from behind its mark. -/
def readRadix (radix : Nat) : Reader Toml := fun text => do
  let (digits, rest) ← readDigits (fun c => (Text.digitValue? radix c).isSome) text
  let n ← toInt64? (← Text.radixValue? radix digits)
  return (.integer n, rest)

/-- A floating-point number from its parts. -/
def floatOf? (negative : Bool) (whole fraction : List Char) (exponent : Int) : Option Toml :=
  let x := Decimal.toFloat {
    negative
    digits := Nat.ofDigitChars 10 (whole ++ fraction) 0
    exponent := exponent - fraction.length }
  if x.isFinite ∨ negative then some (.float x) else none

/-- A decimal number from behind its sign. -/
def readDecimal (negative : Bool) : Reader Toml := fun text =>
  match text with
  | 'i' :: 'n' :: 'f' :: rest => some (.float (if negative then -1.0 / 0.0 else 1.0 / 0.0), rest)
  | 'n' :: 'a' :: 'n' :: rest => some (.float (0.0 / 0.0), rest)
  | text => do
    let (whole, rest) ← readWhole text
    match rest with
    | '.' :: rest =>
      let (fraction, rest) ← readDigits Char.isDigit rest
      let (exponent, rest) ← readExponent rest
      return (← floatOf? negative whole fraction exponent, rest)
    | c :: _ =>
      if c = 'e' ∨ c = 'E' then
        let (exponent, rest) ← readExponent rest
        return (← floatOf? negative whole [] exponent, rest)
      else return (← integerOf? whole, rest)
    | [] => return (← integerOf? whole, [])
where
  /-- The integer of a sign and digits. -/
  integerOf? (whole : List Char) : Option Toml :=
    let size : Int := Nat.ofDigitChars 10 whole 0
    (toInt64? (if negative then -size else size)).map .integer

/-- A number of any kind. -/
def readNumber : Reader Toml := fun text =>
  match text with
  | '0' :: 'x' :: rest => readRadix 16 rest
  | '0' :: 'o' :: rest => readRadix 8 rest
  | '0' :: 'b' :: rest => readRadix 2 rest
  | text =>
    let (negative, rest) := Decimal.readSign text
    readDecimal negative rest

end FilterQuery.Toml
