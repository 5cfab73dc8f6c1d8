/-!
# Binary64 numbers, exactly

A floating-point number of 64 bits as an exact value: a significand below `2 ^ 53` times a power of
two. Every operation computes exactly on integers and rounds once, to the nearest number, a tie
going to the even significand.
-/

namespace SurveyChecks

/-- A binary64 number. Signed zeros are told apart; a NaN carries a payload, and only the payload
tells two of them apart. -/
inductive Binary64 where
  /-- The number `significand · 2 ^ exponent`, or its opposite if it is negative. -/
  | finite (negative : Bool) (significand : Nat) (exponent : Int)
  /-- The infinity of the given sign. -/
  | infinite (negative : Bool)
  /-- Not a number. -/
  | nan (payload : Nat)
  deriving DecidableEq, Repr, Inhabited

namespace Binary64

/-- The exponent of the subnormal numbers and of zero. -/
def minExponent : Int := -1074

/-- The greatest exponent of a finite number. -/
def maxExponent : Int := 971

/-- The significands of normal numbers lie between this bound and its double. -/
def significandBound : Nat := Nat.pow 2 52

/-- A number of the form `num / den · 2 ^ (-e)`, as a numerator and a denominator. -/
def scaled (num den : Nat) (e : Int) : Nat × Nat :=
  if e < 0 then (num * Nat.pow 2 (-e).toNat, den) else (num, den * Nat.pow 2 e.toNat)

/-- The quotient rounded to the nearest integer, a tie going to the even one. -/
def roundQuotient (num den : Nat) : Nat :=
  let q := num / den
  let r := num % den
  if 2 * r < den then q
  else if den < 2 * r then q + 1
  else if q % 2 = 0 then q else q + 1

/-- The exponent at which `num / den` has a significand of 53 bits, or the exponent of the
subnormal numbers when that is greater. -/
def exponentFor (num den : Nat) : Int :=
  let guess : Int := (Nat.log2 num : Int) - (Nat.log2 den : Int) - 52
  let (n, d) := scaled num den guess
  max minExponent (if n < significandBound * d then guess - 1 else guess)

/-- The number nearest to `num / den`. -/
def ofRatio (negative : Bool) (num den : Nat) : Binary64 :=
  if num = 0 then .finite negative 0 minExponent
  else
    let e := exponentFor num den
    let (n, d) := scaled num den e
    let s := roundQuotient n d
    let (s, e) := if s = 2 * significandBound then (significandBound, e + 1) else (s, e)
    if maxExponent < e then .infinite negative else .finite negative s e

/-- The number nearest to an integer. -/
def ofInt (i : Int) : Binary64 := ofRatio (decide (i < 0)) i.natAbs 1

/-- The number nearest to `digits · 10 ^ exponent`. Far outside the range the answer is known
without computing the power. -/
def ofDecimal (negative : Bool) (digits : Nat) (exponent : Int) : Binary64 :=
  if digits = 0 then .finite negative 0 minExponent
  else
    let places : Int := exponent + (Nat.toDigits 10 digits).length
    if 400 < places then .infinite negative
    else if places < -400 then .finite negative 0 minExponent
    else if exponent < 0 then ofRatio negative digits (Nat.pow 10 (-exponent).toNat)
    else ofRatio negative (digits * Nat.pow 10 exponent.toNat) 1

/-! ## Integers -/

/-- The magnitude of a finite number as a quotient. -/
def ratio (significand : Nat) (exponent : Int) : Nat × Nat :=
  if exponent < 0 then (significand, Nat.pow 2 (-exponent).toNat)
  else (significand * Nat.pow 2 exponent.toNat, 1)

/-- The integer that a number equals, if it equals one. -/
def toInt? : Binary64 → Option Int
  | .finite negative s e =>
    let (n, d) := ratio s e
    if n % d = 0 then some (if negative then -((n / d : Nat) : Int) else ((n / d : Nat) : Int))
    else none
  | _ => none

/-! ## Arithmetic -/

/-- The signed numerator of a finite number over `2 ^ (-e)`, for an exponent `e` at most its own. -/
def alignedTo (e : Int) (negative : Bool) (s : Nat) (exponent : Int) : Int :=
  let n : Int := (s * Nat.pow 2 (exponent - e).toNat : Nat)
  if negative then -n else n

/-- The sum, rounded once. -/
def add : Binary64 → Binary64 → Binary64
  | .nan p, _ => .nan p
  | _, .nan p => .nan p
  | .infinite a, .infinite b => if a = b then .infinite a else .nan 0
  | .infinite a, _ => .infinite a
  | _, .infinite b => .infinite b
  | .finite a s e, .finite b t f =>
    let g := min e f
    let sum := alignedTo g a s e + alignedTo g b t f
    let negative := if sum = 0 then a && b else decide (sum < 0)
    let (n, d) := ratio sum.natAbs g
    ofRatio negative n d

/-- The product, rounded once. -/
def mul : Binary64 → Binary64 → Binary64
  | .nan p, _ => .nan p
  | _, .nan p => .nan p
  | .infinite a, .infinite b => .infinite (a != b)
  | .infinite a, .finite b t _ => if t = 0 then .nan 0 else .infinite (a != b)
  | .finite a s _, .infinite b => if s = 0 then .nan 0 else .infinite (a != b)
  | .finite a s e, .finite b t f =>
    let (n, d) := ratio (s * t) (e + f)
    ofRatio (a != b) n d

/-- The number with the other sign. -/
def neg : Binary64 → Binary64
  | .finite a s e => .finite (!a) s e
  | .infinite a => .infinite (!a)
  | .nan p => .nan p

/-- Whether the number is a zero of either sign. -/
def isZero : Binary64 → Bool
  | .finite _ s _ => s == 0
  | _ => false

/-! ## Comparison -/

/-- Equality of values: the two zeros are equal, a NaN equals the NaN of its payload. -/
def same (x y : Binary64) : Bool := (x.isZero && y.isZero) || x == y

/-- Whether the first of two finite numbers is the smaller one; false for the others. -/
def lt : Binary64 → Binary64 → Bool
  | .finite a s e, .finite b t f =>
    let g := min e f
    decide (alignedTo g a s e < alignedTo g b t f)
  | .infinite a, .infinite b => a && !b
  | .infinite a, .finite .. => a
  | .finite .., .infinite b => !b
  | _, _ => false

end Binary64

end SurveyChecks
