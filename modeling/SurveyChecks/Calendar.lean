import SurveyChecks.Text.Digits

/-!
# Dates and times

Calendar dates of the Gregorian calendar, times of day, and moments: a date with a time and perhaps
an offset from universal time. Their ISO texts, their validity, and when two moments are the same.
-/

namespace SurveyChecks

open SurveyChecks.Text

/-- A calendar date. -/
structure Date where
  /-- The year, from 1 to 9999. -/
  year : Nat
  /-- The month, from 1 to 12. -/
  month : Nat
  /-- The day of the month, from 1. -/
  day : Nat
  deriving DecidableEq, Repr

/-- A time of day. -/
structure TimeOfDay where
  /-- The hour, below 24. -/
  hour : Nat
  /-- The minute, below 60. -/
  minute : Nat
  /-- The second, below 60. -/
  second : Nat
  /-- The microsecond, below a million. -/
  microsecond : Nat
  deriving DecidableEq, Repr

/-- A date with a time of day. -/
structure Moment where
  /-- The date. -/
  date : Date
  /-- The time of day. -/
  time : TimeOfDay
  /-- The offset from universal time in seconds, when it is known. -/
  offset : Option Int
  deriving DecidableEq, Repr

namespace Date

/-- Years divisible by four, of the centuries only every fourth. -/
def isLeap (year : Nat) : Bool := year % 4 == 0 && (year % 100 != 0 || year % 400 == 0)

/-- The number of days of a month. -/
def daysIn (year month : Nat) : Nat :=
  if month = 2 then (if isLeap year then 29 else 28)
  else if month = 4 || month = 6 || month = 9 || month = 11 then 30
  else 31

/-- Whether the year, the month and the day exist. -/
def isValid (d : Date) : Bool :=
  decide (1 ≤ d.year) && decide (d.year ≤ 9999) && decide (1 ≤ d.month) && decide (d.month ≤ 12) &&
    decide (1 ≤ d.day) && decide (d.day ≤ daysIn d.year d.month)

/-- The number of days from the first of January of the year 1. -/
def dayNumber (d : Date) : Int :=
  let y : Int := d.year - 1
  let months := (List.range (d.month - 1)).map fun (m : Nat) => daysIn d.year (m + 1)
  365 * y + y / 4 - y / 100 + y / 400 + (months.foldl (· + ·) 0 : Nat) + d.day - 1

/-- The month and the day of the month on a day of a year, counted from zero; `month` is the first of
the months that are left. -/
def monthAndDay (year : Nat) : (left month day : Nat) → Nat × Nat
  | 0, month, day => (month, day + 1)
  | left + 1, month, day =>
    let n := daysIn year month
    if day < n then (month, day + 1) else monthAndDay year left (month + 1) (day - n)

/-- The date so many days after the first of January of the year 1. Every four hundred, hundred and
four years have the same number of days, but the last hundred and the last year of each are one day
longer or shorter. -/
def ofDays (n : Nat) : Date :=
  let r := n % 146097
  let centuries := min 3 (r / 36524)
  let r := r - 36524 * centuries
  let fours := r / 1461
  let r := r % 1461
  let years := min 3 (r / 365)
  let year := 400 * (n / 146097) + 100 * centuries + 4 * fours + years + 1
  let (month, day) := monthAndDay year 12 1 (r - 365 * years)
  ⟨year, month, day⟩

/-- The date of a day number, if its year is one of 1 to 9999. -/
def ofDayNumber? (n : Int) : Option Date :=
  if n < 0 then none
  else
    let d := ofDays n.toNat
    if d.year ≤ 9999 then some d else none

/-- `yyyy-mm-dd`. -/
def isoText (d : Date) : String :=
  decimalPadded 4 d.year ++ "-" ++ decimalPadded 2 d.month ++ "-" ++ decimalPadded 2 d.day

end Date

namespace TimeOfDay

/-- Whether the time lies within a day. -/
def isValid (t : TimeOfDay) : Bool :=
  decide (t.hour < 24) && decide (t.minute < 60) && decide (t.second < 60) &&
    decide (t.microsecond < 1000000)

/-- The number of seconds from midnight, without the fraction. -/
def seconds (t : TimeOfDay) : Nat := 3600 * t.hour + 60 * t.minute + t.second

/-- `hh:mm:ss`, with six places when there is a fraction. -/
def isoText (t : TimeOfDay) : String :=
  decimalPadded 2 t.hour ++ ":" ++ decimalPadded 2 t.minute ++ ":" ++ decimalPadded 2 t.second ++
    (if t.microsecond = 0 then "" else "." ++ decimalPadded 6 t.microsecond)

/-- Midnight. -/
def midnight : TimeOfDay := ⟨0, 0, 0, 0⟩

end TimeOfDay

/-- An offset from universal time: a sign, hours and minutes, and seconds when there are some. -/
def offsetText (offset : Int) : String :=
  let n := offset.natAbs
  (if offset < 0 then "-" else "+") ++ decimalPadded 2 (n / 3600) ++ ":" ++
    decimalPadded 2 (n / 60 % 60) ++ (if n % 60 = 0 then "" else ":" ++ decimalPadded 2 (n % 60))

namespace Moment

/-- Whether date and time exist and the offset is shorter than a day. -/
def isValid (m : Moment) : Bool :=
  m.date.isValid && m.time.isValid && m.offset.all fun (o : Int) => decide (o.natAbs < 86400)

/-- The date and the time with `separator` between them, then the offset. -/
def isoText (separator : String) (m : Moment) : String :=
  m.date.isoText ++ separator ++ m.time.isoText ++ (m.offset.map offsetText).getD ""

/-- The microseconds from the start of the year 1, in universal time for a moment with an offset. -/
def microseconds (m : Moment) : Int :=
  ((m.date.dayNumber * 86400 + m.time.seconds) - m.offset.getD 0) * 1000000 + m.time.microsecond

/-- Two moments with offsets are the same when their universal times are; a moment with an offset is
never one without. -/
def same (a b : Moment) : Bool :=
  a.offset.isSome == b.offset.isSome && a.microseconds == b.microseconds

end Moment

end SurveyChecks
