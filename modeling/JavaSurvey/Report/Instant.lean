import JavaSurvey.Data.Calendar

/-!
# Points in time

The time at which a report is made, as a date and a time of day in coordinated
universal time.
-/

namespace JavaSurvey.Report

open Data (daysInMonth daysInYear)

/-- A point in time after the start of 1970. -/
structure Instant where
  /-- The whole seconds since then. -/
  seconds : Nat
  /-- The rest, less than a second. -/
  nanoseconds : Nat
deriving DecidableEq, Repr

/-- The days of the months of a year. -/
def monthLengths (year : Nat) : List Nat :=
  (List.range' 1 12).map (daysInMonth year)

/-- The year that is so many days after the start of a year, and the days into it. The
first argument bounds the number of years. -/
def yearAfter : Nat → Nat → Nat → Nat × Nat
  | 0, year, days => (year, days)
  | bound + 1, year, days =>
    if days < daysInYear year then (year, days)
    else yearAfter bound (year + 1) (days - daysInYear year)

/-- The number of the month and of the day in it, so many days after the start of the
month with a number. -/
def monthAfter : List Nat → Nat → Nat → Nat × Nat
  | [], month, days => (month, days + 1)
  | length :: rest, month, days =>
    if days < length then (month, days + 1) else monthAfter rest (month + 1) (days - length)

/-- A number with zeros in front, up to a width. -/
def zeroPadded (width number : Nat) : String :=
  let digits := toString number
  "".pushn '0' (width - digits.length) ++ digits

/-- The fraction of a second, with as many groups of three digits as it needs. -/
def fractionText (nanoseconds : Nat) : String :=
  if nanoseconds = 0 then ""
  else if nanoseconds % 1000000 = 0 then "." ++ zeroPadded 3 (nanoseconds / 1000000)
  else if nanoseconds % 1000 = 0 then "." ++ zeroPadded 6 (nanoseconds / 1000)
  else "." ++ zeroPadded 9 nanoseconds

/-- The date and the time of day, with the letter for universal time behind them. -/
def Instant.text (instant : Instant) : String :=
  let days := instant.seconds / 86400
  let (year, dayOfYear) := yearAfter days 1970 days
  let (month, day) := monthAfter (monthLengths year) 1 dayOfYear
  let hour := instant.seconds / 3600 % 24
  let minute := instant.seconds / 60 % 60
  zeroPadded 4 year ++ "-" ++ zeroPadded 2 month ++ "-" ++ zeroPadded 2 day ++ "T"
    ++ zeroPadded 2 hour ++ ":" ++ zeroPadded 2 minute ++ ":"
    ++ zeroPadded 2 (instant.seconds % 60) ++ fractionText instant.nanoseconds ++ "Z"

end JavaSurvey.Report
