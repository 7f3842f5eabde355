import FipsAudit.Text.Number

/-!
# `FipsAudit.Text.Instant` — points in time as text

A point in time, counted from the beginning of 1970, is written as date and time of day of the zero meridian.

* `Date.ofDays` — the date of a day by its number.
* `instantText` — date, time of day with its fraction, and the offset from the zero meridian.
-/

namespace FipsAudit.Text

/-- A date of the calendar. -/
structure Date where
  /-- The year. -/
  year : Nat
  /-- The month, from one. -/
  month : Nat
  /-- The day of the month, from one. -/
  day : Nat
deriving DecidableEq, Repr

/-- The days of four hundred years, after which the calendar repeats. -/
def cycleDays : Nat := 146097

/-- The days from the first of March of the year zero to the beginning of 1970. -/
def daysBefore1970 : Nat := 719468

/-- The date of a day, counted from the beginning of 1970. Years are taken to begin in March, so that a leap day is
    the last day of its year. -/
def Date.ofDays (days : Nat) : Date :=
  let day := days + daysBefore1970
  let inCycle := day % cycleDays
  let yearOfCycle := (inCycle - inCycle / 1460 + inCycle / 36524 - inCycle / 146096) / 365
  let inYear := inCycle - (365 * yearOfCycle + yearOfCycle / 4 - yearOfCycle / 100)
  let month := (5 * inYear + 2) / 153
  { year := day / cycleDays * 400 + yearOfCycle + (if month < 10 then 0 else 1)
    month := if month < 10 then month + 3 else month - 9
    day := inYear - (153 * month + 2) / 5 + 1 }

/-- A number with at least `width` digits. -/
def padded (width n : Nat) : String :=
  let ds := decimal n
  String.ofList (List.replicate (width - ds.length) '0' ++ ds)

/-- The fraction of a second: nothing, or three, six or nine digits, as many as are needed. -/
def fractionText (nanoseconds : Nat) : String :=
  if nanoseconds = 0 then ""
  else if nanoseconds % 1000000 = 0 then "." ++ padded 3 (nanoseconds / 1000000)
  else if nanoseconds % 1000 = 0 then "." ++ padded 6 (nanoseconds / 1000)
  else "." ++ padded 9 nanoseconds

/-- A point in time by its seconds since the beginning of 1970 and the nanoseconds after them. -/
def instantText (seconds nanoseconds : Nat) : String :=
  let date := Date.ofDays (seconds / 86400)
  let inDay := seconds % 86400
  s!"{padded 4 date.year}-{padded 2 date.month}-{padded 2 date.day}" ++
    s!"T{padded 2 (inDay / 3600)}:{padded 2 (inDay / 60 % 60)}:{padded 2 (inDay % 60)}" ++
    fractionText nanoseconds ++ "+00:00"

end FipsAudit.Text
