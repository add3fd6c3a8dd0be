/-!
# Dates and times in TOML

A MOMENT is a date, a time, or a date and a time with a `T` or a blank between them; the last may
have an offset behind it. Months, days (leap years included), hours, minutes and seconds are in
their ranges, and a second may be a leap second. Which moment it is makes no difference to the
settings, so only the text behind it is kept.
-/

namespace FilterQuery.Toml

/-- A number of exactly `width` digits in a range, and the text behind it. -/
def readField? (width low high : Nat) (text : List Char) : Option (Nat × List Char) :=
  let digits := text.take width
  if digits.length = width ∧ digits.all Char.isDigit then
    let n := Nat.ofDigitChars 10 digits 0
    if low ≤ n ∧ n ≤ high then some (n, text.drop width) else none
  else none

/-- The text behind a mark. -/
def expect? (mark : Char) : List Char → Option (List Char)
  | c :: rest => if c = mark then some rest else none
  | [] => none

/-- The number of days of a month. -/
def daysIn (year month : Nat) : Nat :=
  if month = 2 then
    if year % 4 = 0 ∧ (year % 100 ≠ 0 ∨ year % 400 = 0) then 29 else 28
  else if month = 4 ∨ month = 6 ∨ month = 9 ∨ month = 11 then 30
  else 31

/-- The text behind a date. -/
def skipDate? (text : List Char) : Option (List Char) := do
  let (year, rest) ← readField? 4 0 9999 text
  let (month, rest) ← readField? 2 1 12 (← expect? '-' rest)
  let (_, rest) ← readField? 2 1 (daysIn year month) (← expect? '-' rest)
  return rest

/-- The text behind the fraction of a second, where there is one. -/
def skipFraction (text : List Char) : List Char :=
  match text with
  | '.' :: c :: rest => if c.isDigit then rest.dropWhile Char.isDigit else text
  | _ => text

/-- The text behind a time. -/
def skipTime? (text : List Char) : Option (List Char) := do
  let (_, rest) ← readField? 2 0 23 text
  let (_, rest) ← readField? 2 0 59 (← expect? ':' rest)
  let (_, rest) ← readField? 2 0 60 (← expect? ':' rest)
  return skipFraction rest

/-- The text behind an offset. -/
def skipOffset? : List Char → Option (List Char)
  | 'Z' :: rest => some rest
  | 'z' :: rest => some rest
  | c :: rest =>
    if c = '+' ∨ c = '-' then do
      let (_, rest) ← readField? 2 0 23 rest
      let (_, rest) ← readField? 2 0 59 (← expect? ':' rest)
      return rest
    else none
  | [] => none

/-- The text behind a time that follows a date, or behind the date alone. -/
def skipTimeOfDay (text : List Char) : List Char :=
  match text with
  | c :: rest =>
    if c = 'T' ∨ c = 't' ∨ c = ' ' then
      match skipTime? rest with
      | some rest => (skipOffset? rest).getD rest
      | none => text
    else text
  | [] => []

/-- The text behind a moment. -/
def skipMoment? (text : List Char) : Option (List Char) :=
  match skipDate? text with
  | some rest => some (skipTimeOfDay rest)
  | none => skipTime? text

end FilterQuery.Toml
