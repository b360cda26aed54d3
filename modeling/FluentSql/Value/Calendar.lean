import FluentSql.Text.Digits

/-!
# `Value.Calendar` — dates and times, and the text that stands for them

Storage engines without a date type compare dates as text, so every field is written from the largest
to the smallest unit with a fixed width.

## Contents
- `Date`, a day of the proleptic Gregorian calendar; `Clock`, a time of day; `Timestamp`, both.
- `Date.text`, `Timestamp.text`, `Timestamp.utcText`.
-/

namespace FluentSql

/-- Whether a year has a 29th of February. -/
def isLeapYear (year : Int) : Bool :=
  year % 4 = 0 && (year % 100 ≠ 0 || year % 400 = 0)

/-- The number of days of a month. -/
def daysInMonth (year : Int) (month : Nat) : Nat :=
  if month = 2 then if isLeapYear year then 29 else 28
  else if month = 4 || month = 6 || month = 9 || month = 11 then 30
  else 31

/-- A day of the proleptic Gregorian calendar. -/
structure Date where
  year : Int
  month : Nat
  day : Nat
  month_pos : 1 ≤ month
  month_le : month ≤ 12
  day_pos : 1 ≤ day
  day_le : day ≤ daysInMonth year month
  deriving DecidableEq

/-- A time of day to the nanosecond. A leap second is the second 59 with a nanosecond part of
    1000000000 or more. -/
structure Clock where
  hour : Nat
  minute : Nat
  second : Nat
  nanosecond : Nat
  hour_lt : hour < 24
  minute_lt : minute < 60
  second_lt : second < 60
  nanosecond_lt : nanosecond < 2000000000
  leap_second : 1000000000 ≤ nanosecond → second = 59
  deriving DecidableEq

/-- A date with a time of day. -/
structure Timestamp where
  date : Date
  clock : Clock
  deriving DecidableEq

namespace Date

/-- The day with the given fields, if the calendar has it. -/
def of? (year : Int) (month day : Nat) : Option Date :=
  if h : 1 ≤ month ∧ month ≤ 12 ∧ 1 ≤ day ∧ day ≤ daysInMonth year month then
    some ⟨year, month, day, h.1, h.2.1, h.2.2.1, h.2.2.2⟩
  else none

/-- Years 0 to 9999 have four digits; others carry a sign and have at least four. -/
def yearText (year : Int) : List Char :=
  if year < 0 then '-' :: Text.padded 10 4 year.natAbs
  else if year ≤ 9999 then Text.padded 10 4 year.natAbs
  else '+' :: Text.padded 10 4 year.natAbs

/-- The characters of `YYYY-MM-DD`. -/
def chars (d : Date) : List Char :=
  yearText d.year ++ '-' :: Text.padded 10 2 d.month ++ '-' :: Text.padded 10 2 d.day

/-- A date as `YYYY-MM-DD`. -/
def text (d : Date) : String :=
  String.ofList d.chars

end Date

namespace Clock

/-- The time with the given fields, if a clock shows it. -/
def of? (hour minute second nanosecond : Nat) : Option Clock :=
  if h : hour < 24 ∧ minute < 60 ∧ second < 60 ∧ nanosecond < 2000000000 ∧
      (1000000000 ≤ nanosecond → second = 59) then
    some ⟨hour, minute, second, nanosecond, h.1, h.2.1, h.2.2.1, h.2.2.2.1, h.2.2.2.2⟩
  else none

/-- The second as shown: 60 for a leap second. -/
def shownSecond (c : Clock) : Nat :=
  c.second + c.nanosecond / 1000000000

/-- The fraction of a second: nothing for zero, else three, six or nine digits, the fewest that hold
    it exactly. -/
def fractionText (nanosecond : Nat) : List Char :=
  if nanosecond = 0 then []
  else if nanosecond % 1000000 = 0 then '.' :: Text.padded 10 3 (nanosecond / 1000000)
  else if nanosecond % 1000 = 0 then '.' :: Text.padded 10 6 (nanosecond / 1000)
  else '.' :: Text.padded 10 9 nanosecond

/-- The characters of `HH:MM:SS` with the fraction of the second. -/
def chars (c : Clock) : List Char :=
  Text.padded 10 2 c.hour ++ ':' :: Text.padded 10 2 c.minute ++ ':' :: Text.padded 10 2 c.shownSecond
    ++ fractionText (c.nanosecond % 1000000000)

end Clock

namespace Timestamp

/-- The timestamp with the given fields, if calendar and clock have it. -/
def of? (year : Int) (month day hour minute second nanosecond : Nat) : Option Timestamp := do
  return ⟨← Date.of? year month day, ← Clock.of? hour minute second nanosecond⟩

/-- A timestamp without zone: date and time around a blank. -/
def text (t : Timestamp) : String :=
  String.ofList (t.date.chars ++ ' ' :: t.clock.chars)

/-- A timestamp in universal time: date and time around a `T`, then the zone. -/
def utcText (t : Timestamp) : String :=
  String.ofList (t.date.chars ++ 'T' :: t.clock.chars ++ "+00:00".toList)

end Timestamp

end FluentSql
