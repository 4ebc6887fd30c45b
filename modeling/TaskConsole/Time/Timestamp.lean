/-!
# Timestamps — a calendar date and a time of day, read as UTC

A timestamp keeps the fields that are read and shown, and not a count of
seconds: the zone of a text is never applied, so no field ever has to be
computed from another.

* `Date` — a date of the proleptic Gregorian calendar, with its validity;
* `Timestamp` — a date with hour, minute, second and nanoseconds, where a leap
  second is the second 59 with nanoseconds from 10⁹ on;
* `Timestamp.rank` — one number that orders timestamps from the year down. -/

namespace TaskConsole

/-- A leap year has a multiple of four that is no century, or of four hundred. -/
def isLeapYear (year : Int) : Bool :=
  year % 4 == 0 && (year % 100 != 0 || year % 400 == 0)

/-- The number of days of a month; zero for a number that is no month. -/
def daysInMonth (year : Int) : Nat → Nat
  | 1 => 31
  | 2 => if isLeapYear year then 29 else 28
  | 3 => 31
  | 4 => 30
  | 5 => 31
  | 6 => 30
  | 7 => 31
  | 8 => 31
  | 9 => 30
  | 10 => 31
  | 11 => 30
  | 12 => 31
  | _ => 0

/-- The first year that a date can have. -/
def minYear : Int := -262143

/-- The last year that a date can have. -/
def maxYear : Int := 262142

/-- A date of the proleptic Gregorian calendar; the year 0 comes before the year 1. -/
structure Date where
  year : Int
  month : Nat
  day : Nat
  year_mem : minYear ≤ year ∧ year ≤ maxYear
  -- the day exists; a number that is no month has no days
  day_mem : 1 ≤ day ∧ day ≤ daysInMonth year month
  deriving DecidableEq

theorem month_of_daysInMonth_pos {year : Int} {month : Nat}
    (h : 0 < daysInMonth year month) : 1 ≤ month ∧ month ≤ 12 := by
  simp only [daysInMonth] at h
  split at h <;> omega

theorem daysInMonth_le (year : Int) (month : Nat) : daysInMonth year month ≤ 31 := by
  simp only [daysInMonth]
  repeat' split
  all_goals omega

namespace Date

theorem month_mem (d : Date) : 1 ≤ d.month ∧ d.month ≤ 12 :=
  month_of_daysInMonth_pos (Nat.lt_of_lt_of_le d.day_mem.1 d.day_mem.2)

theorem day_le (d : Date) : d.day ≤ 31 :=
  Nat.le_trans d.day_mem.2 (daysInMonth_le d.year d.month)

end Date

/-- The date with these fields, if there is one. -/
def Date.of? (year : Int) (month day : Nat) : Option Date :=
  if hy : minYear ≤ year ∧ year ≤ maxYear then
    if hd : 1 ≤ day ∧ day ≤ daysInMonth year month then
      some { year, month, day, year_mem := hy, day_mem := hd }
    else none
  else none

/-- The nanoseconds that fit in a second of a minute: only the last one may be a
leap second, twice as long. -/
def nanosLimit (second : Nat) : Nat := if second = 59 then 2000000000 else 1000000000

theorem nanosLimit_le (second : Nat) : nanosLimit second ≤ 2000000000 := by
  simp only [nanosLimit]
  split <;> omega

/-- A wall clock reading, taken as UTC. -/
structure Timestamp where
  date : Date
  hour : Nat
  minute : Nat
  -- the second of the minute; a leap second stands at 59
  second : Nat
  nanos : Nat
  hour_lt : hour < 24
  minute_lt : minute < 60
  second_lt : second < 60
  -- a leap second has nanoseconds from 10⁹ on
  nanos_lt : nanos < nanosLimit second
  deriving DecidableEq

namespace Timestamp

/-- The timestamp with these fields, if there is one. -/
def of? (date : Date) (hour minute second nanos : Nat) : Option Timestamp :=
  if h : hour < 24 ∧ minute < 60 ∧ second < 60 ∧ nanos < nanosLimit second then
    some { date, hour, minute, second, nanos,
           hour_lt := h.1, minute_lt := h.2.1, second_lt := h.2.2.1, nanos_lt := h.2.2.2 }
  else none

/-- The first moment of a date. -/
def midnight (date : Date) : Timestamp :=
  { date, hour := 0, minute := 0, second := 0, nanos := 0,
    hour_lt := by decide, minute_lt := by decide, second_lt := by decide,
    nanos_lt := by decide }

/-- A number that grows with every later timestamp: the fields in a mixed radix,
the year first. -/
def rank (t : Timestamp) : Int :=
  (((((t.date.year * 13 + t.date.month) * 32 + t.date.day) * 24 + t.hour) * 60
    + t.minute) * 60 + t.second) * 2000000000 + t.nanos

/-- Timestamps are ordered by their fields, from the year down. -/
def before (a b : Timestamp) : Bool := a.rank < b.rank

/-- The seconds shown on a clock: 60 within a leap second. -/
def shownSecond (t : Timestamp) : Nat := t.second + t.nanos / 1000000000

/-- The nanoseconds within the second shown on a clock. -/
def subsecond (t : Timestamp) : Nat := t.nanos % 1000000000

end Timestamp

end TaskConsole
