import SurveyChecks.Data.Basic
import SurveyChecks.Text.Surrogate

/-!
# Reading JSON

A value from its text. Each reader takes the characters that are left and returns what it read with
the rest. Beside the standard forms the names of the infinities and of NaN are read. Of members with
the same key the last counts, at the place of the first.
-/

namespace SurveyChecks.Json

open SurveyChecks.Text

/-- Why a text is not read. -/
inductive ReadError where
  /-- The text is not JSON. -/
  | malformed
  /-- An integer has more digits than can be read. -/
  | numberTooLong
  /-- Lists and maps are nested too deep. -/
  | tooDeep
  deriving DecidableEq, Repr

/-- The greatest number of digits of an integer. -/
def maxDigits : Nat := 4300

/-- The greatest depth of lists and maps inside one another. -/
def maxDepth : Nat := 985

/-- The payload of the NaN that JSON texts name. -/
def nanPayload : Nat := 1

/-! ## Blanks and names -/

/-- White space between the parts of a text. -/
def isSpace (c : Char) : Bool := c == ' ' || c == '\t' || c == '\n' || c == '\r'

/-- The characters from the next that is no white space. -/
def skipSpace (cs : List Char) : List Char := cs.dropWhile isSpace

/-- What follows the characters of `w`, if the text goes on with them. -/
def afterName? (w : String) (cs : List Char) : Option (List Char) :=
  if w.toList.isPrefixOf cs then some (cs.drop w.length) else none

/-- The values that have names. -/
def namedValues : List (String × Scalar) :=
  [("null", .null), ("true", .bool true), ("false", .bool false), ("NaN", .real (.nan nanPayload)),
    ("Infinity", .real (.infinite false)), ("-Infinity", .real (.infinite true))]

/-- A value given by its name. -/
def named? (cs : List Char) : Option (Scalar × List Char) :=
  namedValues.findSome? fun (w, s) => (afterName? w cs).map fun rest => (s, rest)

/-! ## Numbers -/

/-- A fraction: the point, the digits after it, and the rest. -/
def fractionPart (cs : List Char) : List Char × List Char :=
  match cs with
  | '.' :: r =>
    let digits := r.takeWhile isDigit
    if digits.isEmpty then ([], cs) else ('.' :: digits, r.dropWhile isDigit)
  | _ => ([], cs)

/-- An exponent: its mark, sign and digits, and the rest. -/
def exponentPart (cs : List Char) : List Char × List Char :=
  match cs with
  | c :: r =>
    if c = 'e' || c = 'E' then
      let (sign, r) :=
        match r with
        | '-' :: r' => (['-'], r')
        | '+' :: r' => (['+'], r')
        | r' => ([], r')
      let digits := r.takeWhile isDigit
      if digits.isEmpty then ([], cs) else (c :: (sign ++ digits), r.dropWhile isDigit)
    else ([], cs)
  | [] => ([], cs)

/-- The integer digits of a number: a zero alone, or digits that start with another. -/
def wholePart (cs : List Char) : List Char × List Char :=
  match cs with
  | '0' :: r => (['0'], r)
  | r => (r.takeWhile isDigit, r.dropWhile isDigit)

/-- A number: an integer unless it has a fraction or an exponent. -/
def number (cs : List Char) : Except ReadError (Scalar × List Char) :=
  let (negative, body) :=
    match cs with
    | '-' :: r => (true, r)
    | r => (false, r)
  let (whole, rest) := wholePart body
  if whole.isEmpty then .error .malformed
  else
    let (fraction, rest) := fractionPart rest
    let (exponent, rest) := exponentPart rest
    if fraction.isEmpty && exponent.isEmpty then
      if maxDigits < whole.length then .error .numberTooLong
      else
        let n : Int := decimalValue whole
        .ok (.int (if negative then -n else n), rest)
    else
      match Binary64.ofUnsigned? negative (whole ++ fraction ++ exponent) with
      | some x => .ok (.real x, rest)
      | none => .error .malformed

/-! ## Texts -/

/-- A code unit of sixteen bits from four hexadecimal digits. -/
def unit? : List Char → Option (Nat × List Char)
  | a :: b :: c :: d :: rest =>
    match hexValue? a, hexValue? b, hexValue? c, hexValue? d with
    | some a, some b, some c, some d => some (((16 * a + b) * 16 + c) * 16 + d, rest)
    | _, _, _, _ => none
  | _ => none

/-- The character that two code units stand for. -/
def paired? (high low : Nat) : Option Char :=
  if 0xD800 ≤ high ∧ high < 0xDC00 ∧ 0xDC00 ≤ low ∧ low < 0xE000 then
    some (Char.ofNat (0x10000 + (high - 0xD800) * 0x400 + (low - 0xDC00)))
  else none

/-- The character of a `u` escape, which may take a second escape, and the rest. -/
def unicodeEscape? (cs : List Char) : Option (Char × List Char) := do
  let (high, rest) ← unit? cs
  match rest with
  | '\\' :: 'u' :: more =>
    match unit? more with
    | some (low, rest') =>
      match paired? high low with
      | some c => some (c, rest')
      | none => some (charOfCode high, rest)
    | none => some (charOfCode high, rest)
  | _ => some (charOfCode high, rest)

/-- The character of a short escape. -/
def shortEscape? (c : Char) : Option Char :=
  if c = '"' || c = '\\' || c = '/' then some c
  else if c = 'b' then some '\x08'
  else if c = 'f' then some '\x0c'
  else if c = 'n' then some '\n'
  else if c = 'r' then some '\r'
  else if c = 't' then some '\t'
  else none

/-- One character of a text, with the rest. -/
def textChar? : List Char → Option (Char × List Char)
  | '\\' :: 'u' :: rest => unicodeEscape? rest
  | '\\' :: c :: rest => (shortEscape? c).map (·, rest)
  | c :: rest => if c.toNat < 0x20 || c = '\\' then none else some (c, rest)
  | [] => none

/-- The characters of a text up to its closing quote; `fuel` bounds their number. -/
def textChars : Nat → List Char → Except ReadError (List Char × List Char)
  | 0, _ => .error .malformed
  | _ + 1, '"' :: rest => .ok ([], rest)
  | fuel + 1, cs =>
    match textChar? cs with
    | some (c, rest) => (textChars fuel rest).map fun (t, r) => (c :: t, r)
    | none => .error .malformed

/-- A text after its opening quote. -/
def textBody (cs : List Char) : Except ReadError (String × List Char) :=
  (textChars (cs.length + 1) cs).map fun (t, rest) => (String.ofList t, rest)

/-! ## Values -/

/-- A value that is no list and no map. -/
def leaf (cs : List Char) : Except ReadError (Data × List Char) :=
  match cs with
  | '"' :: rest => (textBody rest).map fun (s, r) => (.text s, r)
  | _ =>
    match named? cs with
    | some (s, rest) => .ok (.scalar s, rest)
    | none => (number cs).map fun (s, r) => (.scalar s, r)

/-- A key with the colon after it. -/
def key (cs : List Char) : Except ReadError (String × List Char) :=
  match cs with
  | '"' :: rest => do
    let (k, rest) ← textBody rest
    match skipSpace rest with
    | ':' :: rest => return (k, skipSpace rest)
    | _ => throw .malformed
  | _ => .error .malformed

mutual

/-- A value inside `depth` lists and maps; `fuel` bounds the number of parts. -/
def value : (fuel depth : Nat) → List Char → Except ReadError (Data × List Char)
  | 0, _, _ => .error .malformed
  | fuel + 1, depth, '[' :: rest =>
    if maxDepth ≤ depth then .error .tooDeep
    else
      match skipSpace rest with
      | ']' :: rest => .ok (.list [], rest)
      | rest => (items fuel (depth + 1) rest).map fun (xs, r) => (.list xs, r)
  | fuel + 1, depth, '\x7b' :: rest =>
    if maxDepth ≤ depth then .error .tooDeep
    else
      match skipSpace rest with
      | '\x7d' :: rest => .ok (.map [], rest)
      | rest => (members fuel (depth + 1) [] rest).map fun (m, r) => (.map m, r)
  | _ + 1, _, cs => leaf cs

/-- The items of a list up to its end. -/
def items : (fuel depth : Nat) → List Char → Except ReadError (List Data × List Char)
  | 0, _, _ => .error .malformed
  | fuel + 1, depth, cs => do
    let (x, rest) ← value fuel depth cs
    match skipSpace rest with
    | ']' :: rest => return ([x], rest)
    | ',' :: rest => (items fuel depth (skipSpace rest)).map fun (xs, r) => (x :: xs, r)
    | _ => throw .malformed

/-- The members of a map up to its end, put into `m`. -/
def members : (fuel depth : Nat) → OrderedMap Data Data → List Char →
    Except ReadError (OrderedMap Data Data × List Char)
  | 0, _, _, _ => .error .malformed
  | fuel + 1, depth, m, cs => do
    let (k, rest) ← key cs
    let (x, rest) ← value fuel depth rest
    let m := m.insert (.text k) x
    match skipSpace rest with
    | '\x7d' :: rest => return (m, rest)
    | ',' :: rest => members fuel depth m (skipSpace rest)
    | _ => throw .malformed

end

/-- The value that a text denotes. -/
def read (s : String) : Except ReadError Data := do
  let cs := s.toList
  let (d, rest) ← value (2 * cs.length + 1) 0 (skipSpace cs)
  if (skipSpace rest).isEmpty then return d else throw .malformed

end SurveyChecks.Json
