import SurveyChecks.Binary64.Basic

/-!
# Decimals of binary64 numbers

The shortest decimal of a number has the fewest significant digits that read back as the number;
among the decimals of that many digits that do, it is the nearest. The search goes through the grids
of one, two, … seventeen digits and tests the two neighbours of the value on each.
-/

namespace SurveyChecks.Binary64

/-- A positive decimal: `digits · 10 ^ exponent`. -/
structure Decimal where
  /-- The significant digits as a number. -/
  digits : Nat
  /-- The power of ten. -/
  exponent : Int
  deriving DecidableEq, Repr

namespace Decimal

/-- The characters of the significant digits. -/
def characters (d : Decimal) : List Char := Nat.toDigits 10 d.digits

/-- The number of digits before the decimal point: the value lies between the powers of ten with
this exponent less one and this exponent. -/
def pointPlace (d : Decimal) : Int := d.exponent + d.characters.length

/-- The same value without zeros at the end of the digits, for at most `n` of them. -/
def trimmed : Nat → Decimal → Decimal
  | 0, d => d
  | n + 1, d =>
    if d.digits ≠ 0 ∧ d.digits % 10 = 0 then trimmed n ⟨d.digits / 10, d.exponent + 1⟩ else d

end Decimal

/-- The number of digits before the decimal point of `num / den`, negative when zeros follow the
point. The value must be above `10 ^ (-400)`. -/
def decimalPlace (num den : Nat) : Int :=
  ((Nat.toDigits 10 (num * Nat.pow 10 400 / den)).length : Int) - 400

/-- The floor of `num / den · 10 ^ (-e)`, with twice the remainder compared to the divisor. -/
def gridFloor (num den : Nat) (e : Int) : Nat × Ordering :=
  let n := if e < 0 then num * Nat.pow 10 (-e).toNat else num
  let d := if e < 0 then den else den * Nat.pow 10 e.toNat
  (n / d, compare (2 * (n % d)) d)

/-- The neighbours of `num / den` among the multiples of `10 ^ e`, the nearer first; of two equally
near ones the even one is first. -/
def neighbours (num den : Nat) (e : Int) : List Decimal :=
  let (q, half) := gridFloor num den e
  match half with
  | .lt => [⟨q, e⟩, ⟨q + 1, e⟩]
  | .gt => [⟨q + 1, e⟩, ⟨q, e⟩]
  | .eq => if q % 2 = 0 then [⟨q, e⟩, ⟨q + 1, e⟩] else [⟨q + 1, e⟩, ⟨q, e⟩]

/-- The shortest decimal of the positive number `significand · 2 ^ exponent`. -/
def shortest (significand : Nat) (exponent : Int) : Decimal :=
  let (num, den) := ratio significand exponent
  let place := decimalPlace num den
  let readsBack (d : Decimal) : Bool :=
    ofDecimal false d.digits d.exponent == .finite false significand exponent
  let candidates := (List.range 17).flatMap fun (n : Nat) => neighbours num den (place - (n + 1))
  ((candidates.find? readsBack).getD ⟨0, 0⟩).trimmed 20

/-! ## A given number of digits -/

/-- The decimal of `n` significant digits nearest to the positive number
`significand · 2 ^ exponent`, a tie going to the even one. -/
def nearestDecimal (n significand : Nat) (exponent : Int) : Decimal :=
  let (num, den) := ratio significand exponent
  (neighbours num den (decimalPlace num den - n)).headD ⟨0, 0⟩

/-- The number that the nearest decimal of `n` significant digits reads as. -/
def roundedTo (n : Nat) : Binary64 → Binary64
  | .finite negative s e =>
    if s = 0 then .finite negative s e
    else
      let d := nearestDecimal n s e
      ofDecimal negative d.digits d.exponent
  | x => x

end SurveyChecks.Binary64
