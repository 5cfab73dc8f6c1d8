import SurveyChecks.Binary64.Parts
import SurveyChecks.Binary64.Shortest
import SurveyChecks.Calendar
import SurveyChecks.Data.Scalar

/-!
# Serial numbers of moments

A spreadsheet file keeps a moment as a number: the days from the thirtieth of December 1899 on, with
the part of the day that has passed. The number is computed in binary64 and keeps sixteen
significant digits, so the moment that is read back lies on a whole millisecond near the one that
was put. Of the sixty days before the first of March 1900 every number stands for the day before.
-/

namespace SurveyChecks.Workbook

/-- The number of significant digits of a number that are kept. -/
def keptDigits : Nat := 16

/-- The day from which days are counted. -/
def dayZero : Date := ⟨1899, 12, 30⟩

/-- The number of the day of a date. -/
def daySerial (d : Date) : Int :=
  let n := d.dayNumber - dayZero.dayNumber
  if 0 < n ∧ n ≤ 60 then n - 1 else n

/-- The part of the day that has passed at a time. -/
def timeSerial (t : TimeOfDay) : Binary64 :=
  ((Binary64.ofInt t.seconds).add (.ofRatio false t.microsecond 1000000)).dividedBy 86400

/-- The number of a moment. -/
def momentSerial (d : Date) (t : TimeOfDay) : Binary64 :=
  (Binary64.ofInt (daySerial d)).add (timeSerial t)

/-- The number of milliseconds of a day. -/
def dayLength : Int := 86400000

/-- The time so many milliseconds after midnight. -/
def timeAt (n : Nat) : TimeOfDay := ⟨n / 3600000, n / 60000 % 60, n / 1000 % 60, n % 1000 * 1000⟩

/-- The moment so many milliseconds after the start of a day, counted from day zero. -/
def momentAt? (day milliseconds : Int) : Option Moment := do
  let day := dayZero.dayNumber + day
  let _ ← Date.ofDayNumber? day
  let d ← Date.ofDayNumber? (day + milliseconds / dayLength)
  return ⟨d, timeAt (milliseconds % dayLength).toNat, none⟩

/-- What a number stands for where a moment is kept: below one a time without a date. A number whose
date does not exist stands for a mark of error. -/
def ofSerial (x : Binary64) : Scalar :=
  let day := x.floor
  let n := ((x.fraction.mul (.ofInt 86400)).mul (.ofInt 1000)).nearestInt
  if day = 0 ∧ n < dayLength then .time (timeAt n.toNat)
  else
    let day := if 0 ≤ day ∧ day < 60 ∧ !x.isZero then day + 1 else day
    match momentAt? day n with
    | some m => .moment m
    | none => .text "#VALUE!"

/-- What is kept of a moment. -/
def keptMoment (d : Date) (t : TimeOfDay) : Scalar :=
  ofSerial ((momentSerial d t).roundedTo keptDigits)

/-- What is kept of a time. -/
def keptTime (t : TimeOfDay) : Scalar := ofSerial ((timeSerial t).roundedTo keptDigits)

end SurveyChecks.Workbook
