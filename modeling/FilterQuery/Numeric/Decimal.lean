/-!
# Reading decimal numbers

A DECIMAL is a number `± digits · 10 ^ exponent`, written with digits, at most one point and at
most one exponent. It stands for the nearest binary floating-point number of 64 bits, a half going to the
even neighbour; from half a unit above the largest one on, that is an infinity.

Decimals far outside the range of floating-point numbers are decided by their ORDER, the power of
ten just above them, so that no huge power is ever computed.
-/

namespace FilterQuery.Numeric

/-- The number `± digits · 10 ^ exponent`. -/
structure Decimal where
  negative : Bool
  digits : Nat
  exponent : Int
  deriving DecidableEq, Repr

namespace Decimal

/-! ## 1. The text -/

/-- The digits at the start of a text. -/
def leadingDigits (text : List Char) : List Char :=
  text.takeWhile Char.isDigit

/-- A text behind its leading digits. -/
def afterDigits (text : List Char) : List Char :=
  text.dropWhile Char.isDigit

/-- A sign, minus being `true`, and the text behind it. No sign is a plus. -/
def readSign : List Char → Bool × List Char
  | '+' :: rest => (false, rest)
  | '-' :: rest => (true, rest)
  | rest => (false, rest)

/-- The exponent at the end of a decimal; zero where there is none. -/
def readExponent? : List Char → Option Int
  | [] => some 0
  | c :: rest =>
    if c = 'e' ∨ c = 'E' then
      let (negative, digits) := readSign rest
      if digits ≠ [] ∧ digits.all Char.isDigit then
        let size := Nat.ofDigitChars 10 digits 0
        some (if negative then -size else size)
      else none
    else none

/-- The fraction behind the whole part of a decimal, and the text behind it. -/
def readFraction (text : List Char) : List Char × List Char :=
  match text with
  | '.' :: rest => (leadingDigits rest, afterDigits rest)
  | rest => ([], rest)

/-- The decimal that a text writes. Digits may be missing on one side of the point, not on both. -/
def read? (text : List Char) : Option Decimal :=
  let (negative, body) := readSign text
  let whole := leadingDigits body
  let (fraction, rest) := readFraction (afterDigits body)
  if whole = [] ∧ fraction = [] then none
  else
    (readExponent? rest).map fun exponent =>
      { negative
        digits := Nat.ofDigitChars 10 (whole ++ fraction) 0
        exponent := exponent - fraction.length }

/-! ## 2. The value -/

/-- The least power of ten above a positive decimal. -/
def order (d : Decimal) : Int :=
  (Nat.toDigits 10 d.digits).length + d.exponent

/-- The nearest floating-point number. -/
def toFloat (d : Decimal) : Float :=
  let magnitude : Float :=
    if d.digits = 0 ∨ d.order < -330 then 0.0
    else if 310 < d.order then 1.0 / 0.0
    else Float.ofScientific d.digits (d.exponent < 0) d.exponent.natAbs
  if d.negative then -magnitude else magnitude

/-- The nearest floating-point number, if it is finite. -/
def toFinite? (d : Decimal) : Option Float :=
  if d.toFloat.isFinite then some d.toFloat else none

/-- **What is read as finite is finite.** -/
theorem isFinite_of_toFinite? {d : Decimal} {x : Float} (h : d.toFinite? = some x) :
    x.isFinite = true := by
  unfold toFinite? at h
  split at h
  · next finite => cases h; exact finite
  · cases h

end Decimal

end FilterQuery.Numeric
