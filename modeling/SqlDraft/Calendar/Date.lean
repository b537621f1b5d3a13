import SqlDraft.Number.Digits

/-!
# Dates

Dates of the Gregorian calendar, continued in both directions, numbered by days from 0001-01-01.

* `daysBeforeYear`, `daysBeforeMonth`: the days before a year and before a month of a year.
* `Date.dayNumber`: the days from 0001-01-01 to a date.
* `yearOfDay`, `Date.ofDayNumber`: the year and the date of a day.
* `weekday`, `lastSunday`: the day of the week, and the last Sunday of a month.
* `fitsBits`, `Date.checkWidth`: whether an integer fits in a number of bits, and whether it can be a number
  of a date at all.
* `Date.ofNumbers`: the date of a year, a month and a day, if there is one.
* `Date.isoText`: a date as year, month and day, zero-padded.
-/

namespace SqlDraft

/-- A year of 366 days. -/
def isLeap (year : Nat) : Bool := year % 4 == 0 && (year % 100 != 0 || year % 400 == 0)

/-- The days from 0001-01-01 to the start of a year. -/
def daysBeforeYear (year : Nat) : Nat :=
  let y := year - 1
  365 * y + y / 4 - y / 100 + y / 400

/-- The days of the months of a year. -/
def monthLengths (leap : Bool) : List Nat :=
  [31, if leap then 29 else 28, 31, 30, 31, 30, 31, 31, 30, 31, 30, 31]

/-- The days of a year before a month, which is counted from one. -/
def daysBeforeMonth (leap : Bool) (month : Nat) : Nat := ((monthLengths leap).take (month - 1)).foldr Nat.add 0

/-- A date; months and days count from one. -/
structure Date where
  year : Nat
  month : Nat
  day : Nat
  deriving DecidableEq

/-- The year of a day. The estimate by the mean length of a year is off by at most one. -/
def yearOfDay (n : Nat) : Nat :=
  let y := n * 400 / 146097 + 1
  if n < daysBeforeYear y then y - 1 else if n < daysBeforeYear (y + 1) then y else y + 1

/-- The month and the day in it of a day of a year, by going through the months. -/
def monthOfDay : List Nat → Nat → Nat → Nat × Nat
  | [], month, n => (month, n + 1)
  | l :: ls, month, n => if n < l then (month, n + 1) else monthOfDay ls (month + 1) (n - l)

/-- Whether an integer fits in a number of bits, one of them for the sign. -/
def fitsBits (bits : Nat) (n : Int) : Bool := -(Nat.pow 2 (bits - 1)) ≤ n && n < Nat.pow 2 (bits - 1)

namespace Date

/-- The days from 0001-01-01 to a date. -/
def dayNumber (d : Date) : Nat :=
  daysBeforeYear d.year + daysBeforeMonth (isLeap d.year) d.month + (d.day - 1)

/-- The date of a day. -/
def ofDayNumber (n : Nat) : Date :=
  let year := yearOfDay n
  let (month, day) := monthOfDay (monthLengths (isLeap year)) 1 (n - daysBeforeYear year)
  ⟨year, month, day⟩

/-- The days of a month. -/
def monthLength (year month : Nat) : Nat := (monthLengths (isLeap year)).getD (month - 1) 0

/-- A number within the limits of a part. -/
def withinLimits (part : ClockPart) (n : Int) : Except Fault Nat :=
  if part.least ≤ n ∧ n ≤ part.greatest then .ok n.toNat else .error (.partOutOfRange part)

/-- Finds a number that does not fit in 32 bits, as every number of a date and a time must. -/
def checkWidth (n : Int) : Except Fault Unit :=
  if fitsBits 32 n then .ok ()
  else if !fitsBits 64 n then .error .numberTooWide
  else if 0 ≤ n then .error .numberTooGreat
  else .error .numberTooSmall

/-- The date of a year from 1 to 9999, a month and a day of that month. -/
def ofNumbers (year month day : Int) : Except Fault Date := do
  if year < 1 ∨ 9999 < year then .error (.yearOutOfRange year)
  else
    let m ← withinLimits .month month
    if day < 1 ∨ monthLength year.toNat m < day then .error .dayOutOfRange
    else .ok ⟨year.toNat, m, day.toNat⟩

/-- Year, month and day with leading zeros. -/
def isoText (d : Date) : String :=
  paddedNat 4 d.year ++ "-" ++ paddedNat 2 d.month ++ "-" ++ paddedNat 2 d.day

end Date

/-- The day of the week of a day, from Monday as zero; 0001-01-01 is a Monday. -/
def weekday (n : Nat) : Nat := n % 7

/-- The last Sunday of a month of 31 days. -/
def lastSunday (year month : Nat) : Nat :=
  let last := Date.dayNumber ⟨year, month, 31⟩
  last - (weekday last + 1) % 7

end SqlDraft
