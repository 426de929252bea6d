/-!
**Points in civil time.**

A moment is a count of seconds since the beginning of 1970 in universal time, the nanoseconds
beside it, and the distance of the local clock from universal time.  From these follow the fields of
the Gregorian calendar and of the ISO calendar of weeks.

Main definitions:

* `LineScript.Moment` — the count;
* `LineScript.Moment.date`, `LineScript.Moment.secondOfDay` — the local date and time;
* `LineScript.Moment.isoWeek` — the year and week of the calendar of weeks.
-/

set_option autoImplicit false

namespace LineScript

/-- A point in time and the local clock there. -/
structure Moment where
  /-- seconds since the beginning of 1970, universal time -/
  seconds : Int
  nanos : Nat
  /-- seconds by which the local clock is ahead -/
  offset : Int

/-- A day of the Gregorian calendar. -/
structure CivilDate where
  year : Int
  month : Nat
  day : Nat

namespace CivilDate

/-- The day that lies `days` after the first of January 1970.  Years are counted from March, so that
the leap day comes last, in cycles of 400 years. -/
def ofDays (days : Int) : CivilDate :=
  let z := days + 719468
  let cycle := z.fdiv 146097
  let dayOfCycle := (z - cycle * 146097).toNat
  let yearOfCycle :=
    (dayOfCycle - dayOfCycle / 1460 + dayOfCycle / 36524 - dayOfCycle / 146096) / 365
  let dayOfYear := dayOfCycle - (365 * yearOfCycle + yearOfCycle / 4 - yearOfCycle / 100)
  let m := (5 * dayOfYear + 2) / 153
  let month := if m < 10 then m + 3 else m - 9
  let year := (yearOfCycle : Int) + cycle * 400 + if month ≤ 2 then 1 else 0
  ⟨year, month, dayOfYear - (153 * m + 2) / 5 + 1⟩

/-- The year has a leap day. -/
def isLeap (year : Int) : Bool :=
  year.fmod 4 == 0 && (year.fmod 100 != 0 || year.fmod 400 == 0)

/-- The days of a year before each month. -/
def daysBefore (year : Int) (month : Nat) : Nat :=
  let lengths := [31, if isLeap year then 29 else 28, 31, 30, 31, 30, 31, 31, 30, 31, 30, 31]
  (lengths.take (month - 1)).foldl (· + ·) 0

/-- The day of the year, from 1. -/
def dayOfYear (d : CivilDate) : Nat := daysBefore d.year d.month + d.day

end CivilDate

namespace Moment

/-- The local time, in seconds. -/
def localSeconds (m : Moment) : Int := m.seconds + m.offset

/-- The local day, counted from the first of January 1970. -/
def dayNumber (m : Moment) : Int := m.localSeconds.fdiv 86400

/-- The seconds of the local day that have passed. -/
def secondOfDay (m : Moment) : Nat := (m.localSeconds.fmod 86400).toNat

/-- The local date. -/
def date (m : Moment) : CivilDate := .ofDays m.dayNumber

def hour (m : Moment) : Nat := m.secondOfDay / 3600

def minute (m : Moment) : Nat := m.secondOfDay / 60 % 60

def second (m : Moment) : Nat := m.secondOfDay % 60

/-- The day of the week, from Sunday as 0. -/
def weekday (m : Moment) : Nat := ((m.dayNumber + 4).fmod 7).toNat

/-- The number of weeks of the year that have begun, where weeks begin on the given day of the
week. -/
def weekFrom (m : Moment) (first : Nat) : Nat :=
  (m.date.dayOfYear + 6 - (m.weekday + 7 - first) % 7) / 7

/-- The number of weeks of a year of the calendar of weeks: 53 when it begins on a Thursday, or on a
Wednesday of a leap year. -/
def weeksIn (year : Int) : Nat :=
  let p := fun y : Int => (y + y.fdiv 4 - y.fdiv 100 + y.fdiv 400).fmod 7
  if p year == 4 || p (year - 1) == 3 then 53 else 52

/-- The year and week of the calendar of weeks.  Weeks begin on Monday and belong to the year in
which their Thursday lies. -/
def isoWeek (m : Moment) : Int × Nat :=
  let d := m.date
  let weekday := if m.weekday == 0 then 7 else m.weekday
  let week := (d.dayOfYear + 10 - weekday) / 7
  if week == 0 then (d.year - 1, weeksIn (d.year - 1))
  else if week > weeksIn d.year then (d.year + 1, 1)
  else (d.year, week)

end Moment

end LineScript
