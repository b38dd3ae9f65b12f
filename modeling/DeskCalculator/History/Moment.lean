import DeskCalculator.Text.DecimalDigit

/-!
# Moments

A moment of universal time and the text that stands for it in a history:
`2024-01-31T09:05:07.000120Z`.  The fraction is left out where a second begins.

* `Moment.ofMicroseconds` — the moment that lies so long after the beginning of 1970.
* `Moment.text` — the text of a moment.
-/

namespace DeskCalculator

/-- A moment of universal time, to the microsecond. -/
structure Moment where
  year : Nat
  month : Nat
  day : Nat
  hour : Nat
  minute : Nat
  second : Nat
  microsecond : Nat := 0
deriving Repr, DecidableEq

/-! ## Counting from 1970 -/

/-- The date that lies a number of days after the beginning of 1970, as year, month and day.  Years
are counted from March on, so that the day that only some have comes last. -/
def dateOfDays (days : Nat) : Nat × Nat × Nat :=
  let z := days + 719468
  let era := z / 146097
  let dayOfEra := z % 146097
  let yearOfEra := (dayOfEra - dayOfEra / 1460 + dayOfEra / 36524 - dayOfEra / 146096) / 365
  let dayOfYear := dayOfEra - (365 * yearOfEra + yearOfEra / 4 - yearOfEra / 100)
  let monthFromMarch := (5 * dayOfYear + 2) / 153
  let day := dayOfYear - (153 * monthFromMarch + 2) / 5 + 1
  let month := if monthFromMarch < 10 then monthFromMarch + 3 else monthFromMarch - 9
  (400 * era + yearOfEra + (if month ≤ 2 then 1 else 0), month, day)

example : dateOfDays 0 = (1970, 1, 1) := by decide
example : dateOfDays 11016 = (2000, 2, 29) := by decide
example : dateOfDays 19723 = (2024, 1, 1) := by decide

/-- The moment that lies a number of microseconds after the beginning of 1970. -/
def Moment.ofMicroseconds (n : Nat) : Moment :=
  let seconds := n / 1000000
  let (year, month, day) := dateOfDays (seconds / 86400)
  { year, month, day, hour := seconds / 3600 % 24, minute := seconds / 60 % 60,
    second := seconds % 60, microsecond := n % 1000000 }

/-! ## Text -/

/-- A number with zeros in front, up to a given width. -/
def paddedText (width n : Nat) : List Char :=
  let digits := natText n
  List.replicate (width - digits.length) '0' ++ digits

/-- The text of a moment. -/
def Moment.text (m : Moment) : List Char :=
  paddedText 4 m.year ++ '-' :: paddedText 2 m.month ++ '-' :: paddedText 2 m.day
    ++ 'T' :: paddedText 2 m.hour ++ ':' :: paddedText 2 m.minute ++ ':' :: paddedText 2 m.second
    ++ (if m.microsecond = 0 then [] else '.' :: paddedText 6 m.microsecond) ++ ['Z']

end DeskCalculator
