import SqlDraft.Calendar.Date

/-!
# Moments

A moment is a date and a time of day, with the offset of its clock from universal time if it is known.

* `Clock`: a time of day in whole seconds.
* `secondsOf`, `clockOf`: date and time as seconds from 0001-01-01, and back.
* `Moment.checkedOffset`, `ofNumbers`: the moment of a date, a time of day and an offset, if there is one.
* `Moment.instant`: the universal time of a moment in seconds; an unknown offset counts as zero.
* `inCalendar`: whether an instant lies in the years 1 to 9999.
* `Moment.isoText`, `plainText`: a moment as text.
* `unixText`: a count of seconds from 1970 as text.
-/

namespace SqlDraft

/-- A time of day. -/
structure Clock where
  hour : Nat
  minute : Nat
  second : Nat
  deriving DecidableEq

/-- The seconds of a day. -/
def daySeconds : Nat := 86400

/-- The seconds from the start of a day. -/
def Clock.seconds (c : Clock) : Nat := 3600 * c.hour + 60 * c.minute + c.second

/-- The time of day after some seconds of a day. -/
def Clock.ofSeconds (n : Nat) : Clock := ⟨n / 3600, n / 60 % 60, n % 60⟩

/-- Hours, minutes and seconds with leading zeros. -/
def Clock.text (c : Clock) : String :=
  paddedNat 2 c.hour ++ ":" ++ paddedNat 2 c.minute ++ ":" ++ paddedNat 2 c.second

/-- The seconds from 0001-01-01 to a time of a date. -/
def secondsOf (d : Date) (c : Clock) : Nat := d.dayNumber * daySeconds + c.seconds

/-- The date and the time of day after some seconds from 0001-01-01. -/
def clockOf (n : Nat) : Date × Clock :=
  (Date.ofDayNumber (n / daySeconds), Clock.ofSeconds (n % daySeconds))

/-- The first second after the year 9999. -/
def calendarEnd : Nat := daysBeforeYear 10000 * daySeconds

/-- Whether an instant lies in the years 1 to 9999. -/
def inCalendar (t : Int) : Bool := 0 ≤ t && t < calendarEnd

/-- A date, a time of day, and the offset of the clock from universal time in seconds. -/
structure Moment where
  date : Date
  clock : Clock
  microsecond : Nat
  offset : Option Int
  deriving DecidableEq

/-- What stands behind the year of a date and a time. -/
def withinYearText (d : Date) (c : Clock) : String :=
  "-" ++ paddedNat 2 d.month ++ "-" ++ paddedNat 2 d.day ++ " " ++ c.text

/-- A span of whole seconds as days and seconds, in quoted form. -/
def quotedSpan (span : Int) : String :=
  let part (name : String) (n : Int) : List String := if n = 0 then [] else [name ++ integerText n]
  let parts := part "days=" (span / daySeconds) ++ part "seconds=" (span % daySeconds)
  "datetime.timedelta(" ++ (if parts.isEmpty then "0" else ", ".intercalate parts) ++ ")"

/-- A date and a time as text; the year has no leading zeros. -/
def plainText (d : Date) (c : Clock) : String := paddedNat 0 d.year ++ withinYearText d c

/-- The sign, hours and minutes of an offset, and its seconds if there are any. -/
def offsetText (offset : Int) : String :=
  let n := offset.natAbs
  let c := Clock.ofSeconds n
  (if offset < 0 then "-" else "+") ++ paddedNat 2 c.hour ++ ":" ++ paddedNat 2 c.minute ++
    (if c.second = 0 then "" else ":" ++ paddedNat 2 c.second)

namespace Moment

/-- The most days of a span. -/
def longestSpan : Nat := 999999999

/-- An offset of less than a day. It must be a span in the first place. -/
def checkedOffset (offset : Int) : Except Fault Int :=
  let days := offset / daySeconds
  if !fitsBits 32 days then .error .spanTooWide
  else if longestSpan < days.natAbs then .error (.spanTooLong days)
  else if offset.natAbs < daySeconds then .ok offset
  else .error (.offsetOutOfRange (quotedSpan offset))

/-- The moment of a date and a time of day by a clock with an offset. The date is looked at first, then
the time. -/
def ofNumbers (year month day hour minute second microsecond : Int) (offset : Option Int) :
    Except Fault Moment := do
  let d ← Date.ofNumbers year month day
  let h ← Date.withinLimits .hour hour
  let m ← Date.withinLimits .minute minute
  let s ← Date.withinLimits .second second
  .ok ⟨d, ⟨h, m, s⟩, ← Date.withinLimits .microsecond microsecond, offset⟩

/-- The universal time of a moment, in seconds from 0001-01-01. -/
def instant (m : Moment) : Int := (secondsOf m.date m.clock : Int) - m.offset.getD 0

/-- Date and time with leading zeros, microseconds if there are any, and the offset if known. -/
def isoText (m : Moment) : String :=
  m.date.isoText ++ " " ++ m.clock.text ++
    (if m.microsecond = 0 then "" else "." ++ paddedNat 6 m.microsecond) ++
    (match m.offset with
      | none => ""
      | some o => offsetText o)

end Moment

/-! ## Seconds from 1970 -/

/-- The seconds from 0001-01-01 to the start of 1970. -/
def unixEpoch : Int := 62135596800

/-- The years after which the calendar repeats. -/
def cycleYears : Int := 400

/-- The days after which the calendar repeats. -/
def cycleDays : Int := 146097

/-- The first year in which an instant has a date. -/
def firstUnixYear : Int := -2147481748

/-- The last year in which an instant has a date. -/
def lastUnixYear : Int := 2147483647

/-- The date and time of a count of seconds from 1970, in universal time. The year before the year 1 is
the year 0, and negative years come before it. -/
def unixText (t : Int) : Except Fault String :=
  let seconds := unixEpoch + t
  let day := seconds / daySeconds
  let d := Date.ofDayNumber (day % cycleDays).toNat
  let year := d.year + cycleYears * (day / cycleDays)
  if firstUnixYear ≤ year ∧ year ≤ lastUnixYear then
    .ok (integerText year ++ withinYearText d (Clock.ofSeconds (seconds % daySeconds).toNat))
  else .error .dateOutOfRange

end SqlDraft
