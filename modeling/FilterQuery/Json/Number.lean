import FilterQuery.Numeric.Decimal
import FilterQuery.Value

/-!
# Numbers in JSON text

A JSON number is a signed 64-bit integer where it is written as one and is in range. All others are
floating-point numbers, computed in two steps that this file fixes to the last bit:

* the SIGNIFICAND collects digits as long as it fits an unsigned 64-bit number. Whole digits that no
  longer fit count as powers of ten; digits of the fraction that no longer fit count for nothing;
* the significand, rounded to a floating-point number, is multiplied or divided by the power of ten
  (`scale?`), each step rounding once. A product beyond the largest number is refused.
-/

namespace FilterQuery.Json

open FilterQuery.Numeric.Decimal (leadingDigits afterDigits readExponent?)

/-! ## 1. Collecting digits -/

/-- The number `significand · 10 ^ exponent`. -/
structure Scaled where
  significand : Nat
  exponent : Int
  deriving DecidableEq, Repr

/-- A significand with one more digit, if the result fits 64 bits. -/
def extend? (significand : Nat) (digit : Char) : Option Nat :=
  let next := 10 * significand + (digit.toNat - '0'.toNat)
  if next < UInt64.size then some next else none

/-- Takes in the digits of the whole part. -/
def takeWhole (significand : Nat) : List Char → Scaled
  | [] => ⟨significand, 0⟩
  | digit :: rest =>
    match extend? significand digit with
    | some next => takeWhole next rest
    | none => ⟨significand, rest.length + 1⟩

/-- Takes in the digits of the fraction. -/
def takeFraction (s : Scaled) : List Char → Scaled
  | [] => s
  | digit :: rest =>
    match extend? s.significand digit with
    | some next => takeFraction ⟨next, s.exponent - 1⟩ rest
    | none => s

/-! ## 2. Powers of ten -/

/-- A floating-point number times a power of ten. Powers beyond 10^308 divide in several steps, and
    multiply nothing but zero. -/
def scale? (x : Float) (exponent : Int) : Option Float :=
  if exponent.natAbs ≤ 308 then
    let power := Float.ofScientific 1 false exponent.natAbs
    if 0 ≤ exponent then
      if (x * power).isFinite then some (x * power) else none
    else some (x / power)
  else if x == 0.0 then some x
  else if 0 ≤ exponent then none
  else scale? (x / 1e308) (exponent + 308)
termination_by exponent.natAbs

/-- The floating-point number of collected digits. -/
def Scaled.toFloat? (s : Scaled) (negative : Bool) : Option Float :=
  (scale? (Float.ofNat s.significand) s.exponent).map (fun x => if negative then -x else x)

/-! ## 3. The text -/

/-- A number written without fraction and exponent. Beyond 64 bits, and as a negative zero, it is a
    floating-point number. -/
def wholeNumber? (negative : Bool) (s : Scaled) : Option Value :=
  let n : Int := if negative then -s.significand else s.significand
  if s.exponent = 0 ∧ Int64.minValue.toInt ≤ n ∧ n ≤ Int64.maxValue.toInt ∧
      ¬(negative ∧ s.significand = 0) then
    some (.integer (Int64.ofInt n))
  else (s.toFloat? negative).map .float

/-- The number that a text writes. The whole part has a digit and no leading zero before others, and
    a point or an exponent mark is followed by a digit. -/
def readNumber? (text : List Char) : Option Value :=
  let (negative, body) := match text with
    | '-' :: rest => (true, rest)
    | rest => (false, rest)
  let digits := leadingDigits body
  if digits = [] ∨ (1 < digits.length ∧ digits.head? = some '0') then none
  else
    let whole := takeWhole 0 digits
    match afterDigits body with
    | [] => wholeNumber? negative whole
    | '.' :: rest =>
      if leadingDigits rest = [] then none
      else withExponent negative (takeFraction whole (leadingDigits rest)) (afterDigits rest)
    | rest => withExponent negative whole rest
where
  /-- The number whose digits are collected and whose exponent is still to be read. -/
  withExponent (negative : Bool) (s : Scaled) (rest : List Char) : Option Value := do
    let exponent ← readExponent? rest
    let x ← Scaled.toFloat? ⟨s.significand, s.exponent + exponent⟩ negative
    return .float x

end FilterQuery.Json
