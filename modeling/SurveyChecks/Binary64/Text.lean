import SurveyChecks.Binary64.Shortest
import SurveyChecks.Text.Blank
import SurveyChecks.Text.DecimalSet
import SurveyChecks.Text.Digits

/-!
# Texts of binary64 numbers

How a number is written, with the choices that differ between formats in one record, and how a
decimal literal is read.
-/

namespace SurveyChecks.Binary64

open SurveyChecks.Text

/-! ## Writing -/

/-- The choices of a format for floating-point numbers. -/
structure Style where
  /-- The text of the positive infinity. -/
  infinity : String
  /-- The text of a NaN. -/
  notANumber : String
  /-- Whether digits in front of an exponent always have a decimal point. -/
  pointBeforeExponent : Bool

namespace Style

/-- Numbers in cells and messages. -/
def shown : Style := ⟨"inf", "nan", false⟩

end Style

/-- A decimal in positional notation, with at least one digit on either side of the point. -/
def positional (d : Decimal) : String :=
  let cs := d.characters
  let place := d.pointPlace
  if place ≤ 0 then "0." ++ String.ofList (List.replicate (-place).toNat '0' ++ cs)
  else
    let whole := cs.take place.toNat
    let fraction := cs.drop place.toNat
    let zeros := List.replicate (place.toNat - cs.length) '0'
    String.ofList (whole ++ zeros) ++ "." ++
      (if fraction.isEmpty then "0" else String.ofList fraction)

/-- A decimal with an exponent of at least two digits. -/
def scientific (style : Style) (d : Decimal) : String :=
  let cs := d.characters
  let e := d.pointPlace - 1
  let fraction :=
    if 1 < cs.length then "." ++ String.ofList (cs.drop 1)
    else if style.pointBeforeExponent then ".0" else ""
  String.ofList (cs.take 1) ++ fraction ++ "e" ++ (if e < 0 then "-" else "+") ++
    decimalPadded 2 e.natAbs

/-- A positive decimal: positional when the point stands at most three zeros before the digits or
within sixteen places, scientific otherwise. -/
def decimalText (style : Style) (d : Decimal) : String :=
  if -4 < d.pointPlace ∧ d.pointPlace ≤ 16 then positional d else scientific style d

/-- The text of a number. -/
def text (style : Style) : Binary64 → String
  | .nan _ => style.notANumber
  | .infinite negative => (if negative then "-" else "") ++ style.infinity
  | .finite negative s e =>
    (if negative then "-" else "") ++ (if s = 0 then "0.0" else decimalText style (shortest s e))

/-! ## Reading -/

/-- An optional sign: whether it is a minus, and what follows. -/
def splitSign : List Char → Bool × List Char
  | '-' :: cs => (true, cs)
  | '+' :: cs => (false, cs)
  | cs => (false, cs)

/-- An optional exponent at the end of a literal: `none` when what is there is no exponent. -/
def exponentOf? : List Char → Option Int
  | [] => some 0
  | c :: cs =>
    if c = 'e' || c = 'E' then
      let (negative, digits) := splitSign cs
      if !digits.isEmpty && digits.all isDigit then
        let n : Int := decimalValue digits
        some (if negative then -n else n)
      else none
    else none

/-- An unsigned decimal literal: digits with an optional point among them, then an optional
exponent. -/
def ofUnsigned? (negative : Bool) (cs : List Char) : Option Binary64 :=
  let whole := cs.takeWhile isDigit
  let rest := cs.dropWhile isDigit
  let (fraction, rest) :=
    match rest with
    | '.' :: r => (r.takeWhile isDigit, r.dropWhile isDigit)
    | r => ([], r)
  if whole.isEmpty && fraction.isEmpty then none
  else
    (exponentOf? rest).map fun e =>
      ofDecimal negative (decimalValue (whole ++ fraction)) (e - fraction.length)

/-- The characters without underscores, each of which must stand between two digits. -/
def joinDigits? : (afterDigit : Bool) → List Char → Option (List Char)
  | _, [] => some []
  | afterDigit, '_' :: cs =>
    if afterDigit && cs.head?.any isDigit then joinDigits? false cs else none
  | _, c :: cs => (joinDigits? (isDigit c) cs).map (c :: ·)

/-- A floating-point literal with blanks around it: a decimal, or the name of an infinity or of a
NaN in any case. The digits may be of any script, with underscores between them. -/
def ofLiteral? (cs : List Char) : Option Binary64 := do
  let cs ← joinDigits? false ((stripNumeral cs).map asciiDigit)
  let (negative, body) := splitSign cs
  let name := body.map Char.toLower
  if name = "inf".toList || name = "infinity".toList then some (.infinite negative)
  else if name = "nan".toList then some (.nan 0)
  else ofUnsigned? negative body

end SurveyChecks.Binary64
