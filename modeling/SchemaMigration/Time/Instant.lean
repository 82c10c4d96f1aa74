/-!
# Instants

Points in time, counted from the start of 1970 in universal time, with their text in
the format of RFC 3339. Dates follow the Gregorian calendar, before its introduction
as well, with a year zero. A leap second is the second after the 59th with a full
extra second in its nanoseconds.
-/

namespace SchemaMigration

/-! ## The calendar -/

namespace Calendar

/-- Whether a year has 366 days. -/
def isLeapYear (year : Int) : Bool :=
  year % 4 == 0 && (year % 100 != 0 || year % 400 == 0)

/-- The number of days of a month. -/
def daysInMonth (year : Int) (month : Nat) : Nat :=
  if month = 2 then if isLeapYear year then 29 else 28
  else if month = 4 ∨ month = 6 ∨ month = 9 ∨ month = 11 then 30
  else 31

/-- A date. -/
structure Date where
  year : Int
  month : Nat
  day : Nat
  deriving DecidableEq, Repr, Inhabited

/-- Whether a date exists, in the years that instants reach. -/
def Date.exists (d : Date) : Bool :=
  decide (-262143 ≤ d.year) && decide (d.year ≤ 262142) && decide (1 ≤ d.month) &&
    decide (d.month ≤ 12) && decide (1 ≤ d.day) && decide (d.day ≤ daysInMonth d.year d.month)

/-- The days from the start of 1970 to a date. Years are taken to start in March, so
that a leap day is the last day of its year. -/
def Date.toDays (d : Date) : Int :=
  let year := if d.month ≤ 2 then d.year - 1 else d.year
  let era := year / 400
  let yearOfEra := year % 400
  let month := (d.month + 9) % 12
  let dayOfYear := (153 * month + 2) / 5 + d.day - 1
  let dayOfEra := yearOfEra * 365 + yearOfEra / 4 - yearOfEra / 100 + dayOfYear
  era * 146097 + dayOfEra - 719468

/-- The date that many days after the start of 1970. -/
def Date.ofDays (days : Int) : Date :=
  let shifted := days + 719468
  let era := shifted / 146097
  let dayOfEra := (shifted % 146097).toNat
  let yearOfEra := (dayOfEra - dayOfEra / 1460 + dayOfEra / 36524 - dayOfEra / 146096) / 365
  let dayOfYear := dayOfEra - (365 * yearOfEra + yearOfEra / 4 - yearOfEra / 100)
  let shiftedMonth := (5 * dayOfYear + 2) / 153
  let day := dayOfYear - (153 * shiftedMonth + 2) / 5 + 1
  let month := if shiftedMonth < 10 then shiftedMonth + 3 else shiftedMonth - 9
  let year := era * 400 + yearOfEra
  { year := if month ≤ 2 then year + 1 else year, month, day }

end Calendar

/-! ## Instants -/

/-- A point in time: whole seconds since the start of 1970 and nanoseconds, a thousand
million or more of them inside a leap second. -/
structure Instant where
  seconds : Int
  nanos : Nat := 0
  deriving DecidableEq, Repr, Inhabited

namespace Instant

/-- The instant of a count of seconds and nanoseconds. It has to lie in the years that
instants reach, and only the last second of a minute can have an extra one. -/
def ofCount? (seconds : Int) (nanos : Nat) : Option Instant :=
  let isInReach := (Calendar.Date.ofDays (seconds / 86400)).exists
  let limit := if seconds % 60 = 59 then 2000000000 else 1000000000
  if isInReach && nanos < limit then some { seconds, nanos } else none

/-- A number with zeros in front, up to a width. -/
def padded (width n : Nat) : String :=
  let digits := n.repr
  String.ofList (List.replicate (width - digits.length) '0') ++ digits

/-- A year: four digits, or a sign and at least four digits. -/
def yearText (year : Int) : String :=
  if 0 ≤ year ∧ year ≤ 9999 then padded 4 year.toNat
  else (if year < 0 then "-" else "+") ++ padded 4 year.natAbs

/-- The fraction of a second: nothing, or three, six or nine digits, the fewest that
say it. -/
def fractionText (nanos : Nat) : String :=
  if nanos = 0 then ""
  else if nanos % 1000000 = 0 then "." ++ padded 3 (nanos / 1000000)
  else if nanos % 1000 = 0 then "." ++ padded 6 (nanos / 1000)
  else "." ++ padded 9 nanos

/-- The date and the time of day, with a `T` between them. -/
def dateTimeText (t : Instant) : String :=
  let date := Calendar.Date.ofDays (t.seconds / 86400)
  let secondOfDay := (t.seconds % 86400).toNat
  let isLeap := 1000000000 ≤ t.nanos
  let second := secondOfDay % 60 + if isLeap then 1 else 0
  let nanos := if isLeap then t.nanos - 1000000000 else t.nanos
  yearText date.year ++ "-" ++ padded 2 date.month ++ "-" ++ padded 2 date.day ++ "T" ++
    padded 2 (secondOfDay / 3600) ++ ":" ++ padded 2 (secondOfDay / 60 % 60) ++ ":" ++
    padded 2 second ++ fractionText nanos

/-- The text of an instant with the offset of universal time in numbers. -/
def offsetText (t : Instant) : String :=
  t.dateTimeText ++ "+00:00"

/-- The text of an instant with the letter of universal time. -/
def zuluText (t : Instant) : String :=
  t.dateTimeText ++ "Z"

end Instant

end SchemaMigration
