/-!
# Code points and digits in a radix

Escapes name a character by its code point in hexadecimal digits, and configuration texts write
numbers in other radices than ten. Digits above nine are letters of either case.
-/

namespace FilterQuery.Text

/-- The value of a digit below a radix, which is at most sixteen. -/
def digitValue? (radix : Nat) (c : Char) : Option Nat :=
  let value :=
    if c.isDigit then c.toNat - '0'.toNat
    else if 'a' ≤ c ∧ c ≤ 'f' then c.toNat - 'a'.toNat + 10
    else if 'A' ≤ c ∧ c ≤ 'F' then c.toNat - 'A'.toNat + 10
    else radix
  if value < radix then some value else none

/-- The value of a text of digits; zero for no digits. -/
def radixValue? (radix : Nat) (digits : List Char) : Option Nat :=
  digits.foldlM (fun value c => (digitValue? radix c).map (radix * value + ·)) 0

/-- The character of a code point. Surrogates are no characters. -/
def charOf? (code : Nat) : Option Char :=
  if code.isValidChar then some (Char.ofNat code) else none

/-- The character that a text of hexadecimal digits names. -/
def hexChar? (digits : List Char) : Option Char :=
  (radixValue? 16 digits).bind charOf?

end FilterQuery.Text
