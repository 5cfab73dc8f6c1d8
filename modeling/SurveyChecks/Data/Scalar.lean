import SurveyChecks.Binary64.Text
import SurveyChecks.Calendar
import SurveyChecks.Text.Quoted

/-!
# Scalar values

What a cell of a sheet or a leaf of a document can hold, its texts, and when two scalars are the
same value.
-/

namespace SurveyChecks

open SurveyChecks.Text

/-- A value without parts. -/
inductive Scalar where
  /-- No value. -/
  | null
  /-- A truth value. -/
  | bool (b : Bool)
  /-- An integer of any size. -/
  | int (i : Int)
  /-- A floating-point number. -/
  | real (x : Binary64)
  /-- A text. -/
  | text (s : String)
  /-- A date. -/
  | date (d : Date)
  /-- A time of day. -/
  | time (t : TimeOfDay)
  /-- A date with a time. -/
  | moment (m : Moment)
  /-- A sequence of bytes. -/
  | bytes (bs : List UInt8)
  deriving Repr, Inhabited

namespace Scalar

/-! ## Equality -/

/-- The number that a scalar stands for in comparisons: truth values count as zero and one. -/
def integer? : Scalar → Option Int
  | .bool b => some (if b then 1 else 0)
  | .int i => some i
  | .real x => x.toInt?
  | _ => none

/-- Whether two scalars are the same value. Numbers of different kinds are compared by value. -/
def same : Scalar → Scalar → Bool
  | .null, .null => true
  | .text a, .text b => a == b
  | .date a, .date b => a == b
  | .time a, .time b => a == b
  | .moment a, .moment b => a.same b
  | .real a, .real b => a.same b
  | .bytes a, .bytes b => a == b
  | a, b =>
    match a.integer?, b.integer? with
    | some i, some j => i == j
    | _, _ => false

instance : BEq Scalar := ⟨same⟩

/-! ## Truth -/

/-- Whether a scalar counts as given: neither null, false, zero, the empty text nor no bytes. -/
def isTruthy : Scalar → Bool
  | .null => false
  | .bool b => b
  | .int i => i != 0
  | .real x => !x.isZero
  | .text s => s != ""
  | .bytes bs => !bs.isEmpty
  | .date _ | .time _ | .moment _ => true

/-! ## Texts -/

/-- The integers from which on numerals have more than 4300 digits. -/
def numeralBound : Nat := Nat.pow 10 4300

/-- Whether a scalar has a text: an integer has none when its numeral is too long. -/
def hasText : Scalar → Bool
  | .int i => decide (i.natAbs < numeralBound)
  | _ => true

/-- A truth value as a word. -/
def boolText (b : Bool) : String := if b then "True" else "False"

/-- A byte between the quotes `quote`: an ASCII character that can be shown stands for itself. -/
def shownByte (quote : Char) (b : UInt8) : String :=
  let c := Char.ofNat b.toNat
  if b.toNat < 0x7F then shownChar quote c else "\\x" ++ hexPadded 2 b.toNat

/-- Bytes between quotes after their mark. -/
def bytesText (bs : List UInt8) : String :=
  let quote := quoteFor (bs.map fun b => Char.ofNat b.toNat)
  "b" ++ quote.toString ++ String.join (bs.map (shownByte quote)) ++ quote.toString

/-- The text of a scalar where it is interpolated. -/
def interpolated : Scalar → String
  | .null => "None"
  | .bool b => boolText b
  | .int i => toString i
  | .real x => x.text .shown
  | .text s => s
  | .date d => d.isoText
  | .time t => t.isoText
  | .moment m => m.isoText " "
  | .bytes bs => bytesText bs

/-- How a cell is spelled: not at all when it is empty, whole numbers without a fraction, moments in
ISO form. -/
def cellSpelling : Scalar → String
  | .null => ""
  | .real x =>
    match x.toInt? with
    | some i => toString i
    | none => x.text .shown
  | .moment m => m.isoText "T"
  | s => s.interpolated

/-! ## Texts inside a list -/

/-- Numbers as the arguments of a constructor. -/
def argumentsText (ns : List Nat) : String := ", ".intercalate (ns.map toString)

/-- The hour and the minute, and the second and the microsecond as far as they are needed. -/
def clockArguments (t : TimeOfDay) : List Nat :=
  if t.microsecond ≠ 0 then [t.hour, t.minute, t.second, t.microsecond]
  else if t.second ≠ 0 then [t.hour, t.minute, t.second]
  else [t.hour, t.minute]

/-- The offset of a moment as a further argument. -/
def offsetArgument : Option Int → String
  | none => ""
  | some 0 => ", tzinfo=datetime.timezone.utc"
  | some o =>
    let days := Int.fdiv o 86400
    let seconds := Int.fmod o 86400
    let parts := (if days = 0 then [] else ["days=" ++ toString days]) ++
      (if seconds = 0 then [] else ["seconds=" ++ toString seconds])
    ", tzinfo=datetime.timezone(datetime.timedelta(" ++ ", ".intercalate parts ++ "))"

/-- The text of a scalar inside a list or a message: texts are quoted, dates and times spelled as
constructions. -/
def shown : Scalar → String
  | .text s => quoted s
  | .date d => "datetime.date(" ++ argumentsText [d.year, d.month, d.day] ++ ")"
  | .time t => "datetime.time(" ++ argumentsText (clockArguments t) ++ ")"
  | .moment m =>
    "datetime.datetime(" ++
      argumentsText ([m.date.year, m.date.month, m.date.day] ++ clockArguments m.time) ++
      offsetArgument m.offset ++ ")"
  | s => s.interpolated

end Scalar

end SurveyChecks
