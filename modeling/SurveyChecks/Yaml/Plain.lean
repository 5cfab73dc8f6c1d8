import SurveyChecks.Text.Digits
import SurveyChecks.Text.Edit
import SurveyChecks.Yaml.Character

/-!
# What plain texts denote

In YAML a text without quotes may denote something else than itself: a number, a truth value, a
date. The form of the text decides. The forms are those of YAML 1.1.
-/

namespace SurveyChecks.Yaml

open SurveyChecks.Text

/-- What a scalar is: by the form of its text, or as its tag says. -/
inductive Tag where
  /-- No value. -/
  | null
  /-- A truth value. -/
  | bool
  /-- An integer. -/
  | int
  /-- A floating-point number. -/
  | float
  /-- A date, perhaps with a time. -/
  | timestamp
  /-- The key that merges another map. -/
  | merge
  /-- The key of a default value. -/
  | value
  /-- A text. -/
  | str
  /-- Bytes. -/
  | binary
  /-- A sequence. -/
  | seq
  /-- A mapping. -/
  | map
  /-- A set. -/
  | set
  /-- A list of pairs. -/
  | pairs
  /-- Any other tag. -/
  | other (name : String)
  deriving DecidableEq, Repr, Inhabited

/-! ## Words -/

/-- The words for the truth values. -/
def boolWords : List String :=
  ["yes", "Yes", "YES", "no", "No", "NO", "true", "True", "TRUE", "false", "False", "FALSE",
    "on", "On", "ON", "off", "Off", "OFF"]

/-- The words for the truth value that holds, in small letters. -/
def trueWords : List String := ["yes", "true", "on"]

/-- The words for the truth value that does not hold, in small letters. -/
def falseWords : List String := ["no", "false", "off"]

/-- The words for no value; the empty text is one. -/
def nullWords : List String := ["~", "null", "Null", "NULL", ""]

/-! ## Integers -/

/-- The text after an optional sign. -/
def unsigned : List Char → List Char
  | '-' :: cs => cs
  | '+' :: cs => cs
  | cs => cs

/-- A decimal digit or an underscore. -/
def isDigitOrLow (c : Char) : Bool := isDigit c || c == '_'

/-- A hexadecimal digit or an underscore. -/
def isHexOrLow (c : Char) : Bool := (hexValue? c).isSome || c == '_'

/-- A binary digit or an underscore. -/
def isBinaryOrLow (c : Char) : Bool := c == '0' || c == '1' || c == '_'

/-- An octal digit or an underscore. -/
def isOctalOrLow (c : Char) : Bool := (decide ('0' ≤ c) && decide (c ≤ '7')) || c == '_'

/-- Characters of a class, at least one. -/
def someOf (p : Char → Bool) (cs : List Char) : Bool := !cs.isEmpty && cs.all p

/-- A decimal integer that does not start with a zero. -/
def isPlainDecimal : List Char → Bool
  | [] => false
  | c :: cs => isDigit c && c != '0' && cs.all isDigitOrLow

/-- A place of base sixty: one digit, or two of which the first is below six. -/
def isSixtyPlace : List Char → Bool
  | [c] => isDigit c
  | [c, d] => decide ('0' ≤ c) && decide (c ≤ '5') && isDigit d
  | _ => false

/-- A first place of class `p` and at least one further place of base sixty, colons between them. -/
def isSixtyBased (p : List Char → Bool) (cs : List Char) : Bool :=
  match splitAt ':' cs with
  | first :: second :: more => p first && (second :: more).all isSixtyPlace
  | _ => false

/-- An unsigned integer in one of the bases two, eight, ten, sixteen and sixty. -/
def isUnsignedInt (cs : List Char) : Bool :=
  match cs with
  | ['0'] => true
  | '0' :: 'b' :: r => someOf isBinaryOrLow r
  | '0' :: 'x' :: r => someOf isHexOrLow r
  | '0' :: r => someOf isOctalOrLow r
  | _ => isPlainDecimal cs || isSixtyBased isPlainDecimal cs

/-- An integer. -/
def isInt (cs : List Char) : Bool := isUnsignedInt (unsigned cs)

/-! ## Floating-point numbers -/

/-- A digit and any number of digits and underscores. -/
def isDigitRun : List Char → Bool
  | [] => false
  | c :: cs => isDigit c && cs.all isDigitOrLow

/-- Digits and underscores, then an optional exponent with a sign. -/
def isFractionTail (cs : List Char) : Bool :=
  match cs.dropWhile isDigitOrLow with
  | [] => true
  | e :: sign :: digits =>
    (e == 'e' || e == 'E') && (sign == '-' || sign == '+') && someOf isDigit digits
  | _ => false

/-- The texts before and after the first point. -/
def splitPoint? (cs : List Char) : Option (List Char × List Char) :=
  match cs.dropWhile (· != '.') with
  | [] => none
  | _ :: after => some (cs.takeWhile (· != '.'), after)

/-- A floating-point number with digits before the point. -/
def isPointed (cs : List Char) : Bool :=
  match splitPoint? cs with
  | some (before, after) =>
    (isDigitRun before && isFractionTail after) ||
      (isSixtyBased isDigitRun before && after.all isDigitOrLow)
  | none => false

/-- A floating-point number that starts with the point. -/
def isFraction : List Char → Bool
  | '.' :: c :: cs => isDigit c && isFractionTail cs
  | _ => false

/-- The names of the infinity. -/
def infinityNames : List String := [".inf", ".Inf", ".INF"]

/-- The names of NaN. -/
def nanNames : List String := [".nan", ".NaN", ".NAN"]

/-- A floating-point number. -/
def isFloat (cs : List Char) : Bool :=
  isPointed (unsigned cs) || isFraction cs ||
    infinityNames.contains (String.ofList (unsigned cs)) || nanNames.contains (String.ofList cs)

/-! ## Time stamps -/

/-- The digits of a time stamp, each part as written. -/
structure Stamp where
  /-- The year. -/
  year : List Char
  /-- The month. -/
  month : List Char
  /-- The day. -/
  day : List Char
  /-- Hour, minute, second and the digits of the fraction, when there is a time. -/
  clock : Option (List Char × List Char × List Char × List Char)
  /-- The zone, when there is one: `none` inside for universal time, otherwise whether the offset is
  negative, its hours and its minutes. -/
  zone : Option (Option (Bool × List Char × List Char))
  deriving Repr

/-- From `least` to `most` digits at the start of a text, and the rest. -/
def digitsBetween? (least most : Nat) (cs : List Char) : Option (List Char × List Char) :=
  let ds := (cs.take most).takeWhile isDigit
  if least ≤ ds.length then some (ds, cs.drop ds.length) else none

/-- The rest of a text after the character `c`. -/
def afterChar? (c : Char) : List Char → Option (List Char)
  | d :: cs => if d = c then some cs else none
  | [] => none

/-- The zone at the end of a time stamp. -/
def zone? (cs : List Char) : Option (Option (Option (Bool × List Char × List Char))) :=
  match cs with
  | [] => some none
  | _ =>
    match cs.dropWhile isSpaceOrTab with
    | ['Z'] => some (some none)
    | sign :: r =>
      if sign = '-' || sign = '+' then do
        let (hours, r) ← digitsBetween? 1 2 r
        match r with
        | [] => some (some (some (sign == '-', hours, [])))
        | ':' :: r => do
          let (minutes, r) ← digitsBetween? 2 2 r
          if r.isEmpty then some (some (some (sign == '-', hours, minutes))) else none
        | _ => none
      else none
    | [] => none

/-- The separator between date and time: a letter, or spaces and tabs. -/
def afterSeparator? (cs : List Char) : Option (List Char) :=
  match cs with
  | c :: r =>
    if c = 'T' || c = 't' then some r
    else if isSpaceOrTab c then some (r.dropWhile isSpaceOrTab)
    else none
  | [] => none

/-- The parts of a time stamp: a date, or a date with a time. -/
def stamp? (cs : List Char) : Option Stamp := do
  let (year, r) ← digitsBetween? 4 4 cs
  let r ← afterChar? '-' r
  let (month, r) ← digitsBetween? 1 2 r
  let r ← afterChar? '-' r
  let (day, r) ← digitsBetween? 1 2 r
  if r.isEmpty then return ⟨year, month, day, none, none⟩
  let r ← afterSeparator? r
  let (hour, r) ← digitsBetween? 1 2 r
  let r ← afterChar? ':' r
  let (minute, r) ← digitsBetween? 2 2 r
  let r ← afterChar? ':' r
  let (second, r) ← digitsBetween? 2 2 r
  let (fraction, r) :=
    match r with
    | '.' :: r => (r.takeWhile isDigit, r.dropWhile isDigit)
    | r => ([], r)
  let zone ← zone? r
  return ⟨year, month, day, some (hour, minute, second, fraction), zone⟩

/-- Whether a text is taken for a time stamp without a tag: a date alone needs two digits for month
and day. -/
def isTimestamp (cs : List Char) : Bool :=
  match stamp? cs with
  | some s => s.clock.isSome || (s.month.length == 2 && s.day.length == 2)
  | none => false

/-! ## All forms -/

/-- The characters without a line feed that ends them. -/
def beforeFeed (cs : List Char) : List Char := if cs.getLast? = some '\n' then cs.dropLast else cs

/-- The characters that start the properties of a node. Alone they have a form that denotes nothing.
-/
def indicators : List String := ["!", "&", "*"]

/-- What a plain text of one line denotes. -/
def lineTag (s : String) : Tag :=
  let cs := s.toList
  if boolWords.contains s then .bool
  else if isFloat cs then .float
  else if isInt cs then .int
  else if s = "<<" then .merge
  else if nullWords.contains s then .null
  else if isTimestamp cs then .timestamp
  else if s = "=" then .value
  else if indicators.contains s then .other s
  else .str

/-- What a text denotes by its form: a line feed after it does not count, but a text of nothing else
is a text. -/
def tagOf (s : String) : Tag :=
  if s = "\n" then .str else lineTag (String.ofList (beforeFeed s.toList))

end SurveyChecks.Yaml
