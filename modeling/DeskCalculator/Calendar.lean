import DeskCalculator.Text.Quoted
import DeskCalculator.Text.DecimalDigit

/-!
# Dates and times

A date of the calendar, which may have a time of day; the time of day may know how far it is from
universal time.

* `CalendarTime.objection?` — why the numbers are no date or time, if they are not.
* `CalendarTime.isSame` — equality; times that know their distance are compared by the instant.
* `CalendarTime.shown` — the text that shows a date in a report.
-/

namespace DeskCalculator

/-! ## Types -/

/-- A time of day. -/
structure ClockTime where
  hour : Nat
  minute : Nat
  second : Nat
  microsecond : Nat := 0
  /-- The minutes that it is ahead of universal time. -/
  offset? : Option Int := none
deriving Repr, DecidableEq

/-- A date, perhaps with a time of day. -/
structure CalendarTime where
  year : Nat
  month : Nat
  day : Nat
  time? : Option ClockTime := none
deriving Repr, DecidableEq

/-! ## The calendar -/

/-- Whether a year has a day more. -/
def isLeapYear (year : Nat) : Bool := year % 4 == 0 && (year % 100 != 0 || year % 400 == 0)

/-- The number of days of a month. -/
def daysIn (year month : Nat) : Nat :=
  if month == 2 then (if isLeapYear year then 29 else 28)
  else if month == 4 || month == 6 || month == 9 || month == 11 then 30
  else 31

/-- The number of days of the months before a month. -/
def daysBeforeMonth (year month : Nat) : Nat :=
  (List.range (month - 1)).foldl (fun days i => days + daysIn year (i + 1)) 0

/-- The number of a day, counted from the first day of the year 1. -/
def dayNumber (year month day : Nat) : Nat :=
  let past := year - 1
  365 * past + past / 4 - past / 100 + past / 400 + daysBeforeMonth year month + day

example : dayNumber 1 1 1 = 1 := by decide
example : dayNumber 2024 3 1 = dayNumber 2024 2 29 + 1 := by decide
example : dayNumber 1970 1 1 = 719163 := by decide

/-! ## Spans of time -/

/-- The text that shows a number of minutes: whole days, and the seconds that remain. -/
def spanText (minutes : Int) : List Char :=
  let days := minutes.fdiv 1440
  let seconds := minutes.fmod 1440 * 60
  let part (name : String) (n : Int) : List (List Char) :=
    if n = 0 then [] else [name.toList ++ '=' :: intText n]
  let parts := part "days" days ++ part "seconds" seconds
  let inner := if parts.isEmpty then ['0'] else joinWith ", ".toList parts
  "datetime.timedelta(".toList ++ inner ++ [')']

/-- The text that shows a distance from universal time. -/
def zoneText (minutes : Int) : List Char :=
  if minutes = 0 then "datetime.timezone.utc".toList
  else "datetime.timezone(".toList ++ spanText minutes ++ [')']

/-! ## Numbers that are no date -/

/-- What is wrong with the numbers of a date or time. -/
inductive CalendarObjection where
  /-- A distance of a day or more from universal time. -/
  | offset (minutes : Int)
  | year (n : Nat)
  | month
  | day
  | hour
  | minute
  | second
deriving Repr, DecidableEq

/-- The words for an objection. -/
def CalendarObjection.message : CalendarObjection → List Char
  | .offset minutes =>
    ("offset must be a timedelta strictly between -timedelta(hours=24) and timedelta(hours=24), "
      ++ "not ").toList ++ spanText minutes ++ ['.']
  | .year n => "year ".toList ++ natText n ++ " is out of range".toList
  | .month => "month must be in 1..12".toList
  | .day => "day is out of range for month".toList
  | .hour => "hour must be in 0..23".toList
  | .minute => "minute must be in 0..59".toList
  | .second => "second must be in 0..59".toList

/-- What is wrong with a time of day, apart from its distance from universal time. -/
def ClockTime.objection? (t : ClockTime) : Option CalendarObjection :=
  if 23 < t.hour then some .hour
  else if 59 < t.minute then some .minute
  else if 59 < t.second then some .second
  else none

namespace CalendarTime

/-- What is wrong with a date: first its distance from universal time, then the rest from the
largest unit to the smallest. -/
def objection? (t : CalendarTime) : Option CalendarObjection :=
  let offset := (t.time?.bind ClockTime.offset?).getD 0
  if 1440 ≤ offset.natAbs then some (.offset offset)
  else if t.year < 1 then some (.year t.year)
  else if t.month < 1 || 12 < t.month then some .month
  else if t.day < 1 || daysIn t.year t.month < t.day then some .day
  else t.time?.bind ClockTime.objection?

/-! ## Equality -/

/-- The microseconds since the day before the first one, as far as a distance from universal time
is known. -/
def instant? (t : CalendarTime) : Option Int := do
  let time ← t.time?
  let offset ← time.offset?
  let minutes : Int := (dayNumber t.year t.month t.day * 24 + time.hour) * 60 + time.minute
  return ((minutes - offset) * 60 + time.second) * 1000000 + time.microsecond

/-- Whether two dates or times are equal. -/
def isSame (a b : CalendarTime) : Bool :=
  match a.instant?, b.instant? with
  | some m, some n => m == n
  | none, none => a == b
  | _, _ => false

/-! ## Text -/

/-- The numbers that show a time of day: what is zero at the end is left out, apart from the
minutes. -/
def clockNumbers (t : ClockTime) : List Nat :=
  [t.hour, t.minute]
    ++ if t.microsecond != 0 then [t.second, t.microsecond]
      else if t.second != 0 then [t.second] else []

/-- The text that shows a date in a report. -/
def shown (t : CalendarTime) : List Char :=
  let date := [t.year, t.month, t.day]
  match t.time? with
  | none => "datetime.date(".toList ++ joinWith ", ".toList (date.map natText) ++ [')']
  | some time =>
    let zone : List (List Char) := match time.offset? with
      | some minutes => ["tzinfo=".toList ++ zoneText minutes]
      | none => []
    "datetime.datetime(".toList
      ++ joinWith ", ".toList ((date ++ clockNumbers time).map natText ++ zone) ++ [')']

end CalendarTime

end DeskCalculator
