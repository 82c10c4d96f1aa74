import SchemaMigration.Text.Blank
import SchemaMigration.Time.Instant

/-!
# Reading instants

Databases report timestamps in two forms: that of RFC 3339, with an offset, and a
looser one without an offset, taken to be universal time.
-/

namespace SchemaMigration.Instant

open Calendar

/-! ## Parts

Each part is read from the start of a text and comes with what follows it.
-/

/-- A number of at least one digit and at most `most`, as many as there are. -/
def number (least most : Nat) (cs : List Char) : Option (Nat × List Char) :=
  let digits := (cs.take most).takeWhile Char.isDigit
  if digits.length < least then none
  else some (Nat.ofDigitChars 10 digits 0, cs.drop digits.length)

/-- What follows a given character. -/
def expect (c : Char) : List Char → Option (List Char)
  | [] => none
  | d :: cs => if d = c then some cs else none

/-- The nanoseconds of a fraction, if a point starts one; digits after the ninth do not
count. -/
def fraction : List Char → Option (Nat × List Char)
  | '.' :: cs =>
    match number 1 9 cs with
    | none => none
    | some (n, rest) =>
      let digits := cs.length - rest.length
      some (n * Nat.pow 10 (9 - digits), rest.dropWhile Char.isDigit)
  | cs => some (0, cs)

/-- A time of day. -/
structure TimeOfDay where
  hour : Nat
  minute : Nat
  second : Nat
  nanos : Nat
  deriving DecidableEq, Repr, Inhabited

/-- Whether a time of day exists; a minute may have a leap second. -/
def TimeOfDay.exists (t : TimeOfDay) : Bool :=
  decide (t.hour ≤ 23) && decide (t.minute ≤ 59) && decide (t.second ≤ 60)

/-- The instant of a date and a time of day at an offset from universal time. -/
def ofDateAndTime? (d : Date) (t : TimeOfDay) (offset : Int) : Option Instant :=
  if d.exists && t.exists then
    let isLeap := t.second = 60
    let second := if isLeap then 59 else t.second
    some
      { seconds := d.toDays * 86400 + (t.hour * 3600 + t.minute * 60 + second : Nat) - offset
        nanos := t.nanos + if isLeap then 1000000000 else 0 }
  else none

/-! ## With an offset -/

/-- The seconds of an offset: the letter of universal time, or a sign, hours and
minutes. It is less than a day. -/
def offset (cs : List Char) : Option (Int × List Char) :=
  let hoursAndMinutes (sign : Int) (cs : List Char) : Option (Int × List Char) := do
    let (hours, cs) ← number 2 2 cs
    let cs ← expect ':' cs
    let (minutes, cs) ← number 2 2 cs
    let seconds := hours * 3600 + minutes * 60
    if minutes ≤ 59 ∧ seconds < 86400 then some (sign * seconds, cs) else none
  match cs with
  | 'Z' :: cs | 'z' :: cs => some (0, cs)
  | '+' :: cs => hoursAndMinutes 1 cs
  | '-' :: cs | '−' :: cs => hoursAndMinutes (-1) cs
  | _ => none

/-- An instant in the format of RFC 3339. -/
def ofOffsetText? (cs : List Char) : Option Instant := do
  let (year, cs) ← number 4 4 cs
  let cs ← expect '-' cs
  let (month, cs) ← number 2 2 cs
  let cs ← expect '-' cs
  let (day, cs) ← number 2 2 cs
  let cs ←
    match cs with
    | 'T' :: cs | 't' :: cs | ' ' :: cs => some cs
    | _ => none
  let (hour, cs) ← number 2 2 cs
  let cs ← expect ':' cs
  let (minute, cs) ← number 2 2 cs
  let cs ← expect ':' cs
  let (second, cs) ← number 2 2 cs
  let (nanos, cs) ← fraction cs
  let (offset, cs) ← offset cs
  if cs.isEmpty then
    ofDateAndTime? { year, month, day } { hour, minute, second, nanos } offset
  else none

/-! ## Without an offset -/

/-- A number of one or two digits, blanks before it aside. -/
def looseNumber (cs : List Char) : Option (Nat × List Char) :=
  number 1 2 (Text.trimStart cs)

/-- A year of one to four digits, or of any length after a sign; blanks before it do
not count. -/
def looseYear (cs : List Char) : Option (Int × List Char) :=
  match Text.trimStart cs with
  | '-' :: cs => (number 1 cs.length cs).map fun r => (-(r.1 : Int), r.2)
  | '+' :: cs => (number 1 cs.length cs).map fun r => ((r.1 : Int), r.2)
  | cs => (number 1 4 cs).map fun r => ((r.1 : Int), r.2)

/-- An instant in the looser form. -/
def ofPlainText? (cs : List Char) : Option Instant := do
  let (year, cs) ← looseYear cs
  let cs ← expect '-' cs
  let (month, cs) ← looseNumber cs
  let cs ← expect '-' cs
  let (day, cs) ← looseNumber cs
  let (hour, cs) ← looseNumber cs
  let cs ← expect ':' cs
  let (minute, cs) ← looseNumber cs
  let cs ← expect ':' cs
  let (second, cs) ← looseNumber cs
  let (nanos, cs) ← fraction cs
  if cs.isEmpty then ofDateAndTime? { year, month, day } { hour, minute, second, nanos } 0
  else none

/-- The instant a database reports, in either form. -/
def ofText? (text : String) : Option Instant :=
  (ofOffsetText? text.toList).or (ofPlainText? text.toList)

end SchemaMigration.Instant
