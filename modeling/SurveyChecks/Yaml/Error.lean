/-!
# Errors in YAML texts

Why a YAML text denotes no value. Most texts are refused as a whole; a few have the form of a value
that does not exist, such as the thirtieth of February.
-/

namespace SurveyChecks.Yaml

/-- A part of a date or a time that does not exist. -/
inductive StampPart where
  /-- A year outside 1 to 9999. -/
  | year (n : Nat)
  /-- A month outside 1 to 12. -/
  | month
  /-- A day that the month does not have. -/
  | day
  /-- An hour above 23. -/
  | hour
  /-- A minute above 59. -/
  | minute
  /-- A second above 59. -/
  | second
  deriving DecidableEq, Repr

/-- Why a YAML text denotes no value. -/
inductive ReadError where
  /-- The text breaks the rules of the format. -/
  | malformed
  /-- The text of a number has no characters. -/
  | emptyNumber
  /-- A text marked as a truth value is none. -/
  | notBool
  /-- A text marked as a time stamp is none. -/
  | notStamp
  /-- A mapping marked as a time stamp has no text. -/
  | noStampText
  /-- A text marked as an integer is none in the base. -/
  | notInteger (base : Nat) (text : String)
  /-- A text marked as a floating-point number is none. -/
  | notFloat (text : String)
  /-- An integer has too many digits. -/
  | numberTooLong (digits : Nat)
  /-- A date or a time does not exist. -/
  | noSuchTime (part : StampPart)
  /-- An offset from universal time, in seconds, is a day or longer. -/
  | offsetTooLong (seconds : Int)
  /-- An escape denotes no character. -/
  | noSuchCharacter
  /-- A number is too great to be looked at: that of an escape, or the power of sixty of a place. -/
  | overflow
  /-- Collections are nested too deep. -/
  | tooDeep
  deriving DecidableEq, Repr

namespace ReadError

/-- The wording about a part of a date or a time. -/
def partMessage : StampPart → String
  | .year n => s!"year {n} is out of range"
  | .month => "month must be in 1..12"
  | .day => "day is out of range for month"
  | .hour => "hour must be in 0..23"
  | .minute => "minute must be in 0..59"
  | .second => "second must be in 0..59"

end ReadError

end SurveyChecks.Yaml
