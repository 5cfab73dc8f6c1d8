import SurveyChecks.Binary64.Basic

/-!
# Whole parts and fractions

A number cut into the greatest integer below it and the rest, the integer nearest to a number, and
the division by a natural number.
-/

namespace SurveyChecks.Binary64

/-- The quotient by a positive natural number, rounded once. -/
def dividedBy (n : Nat) : Binary64 → Binary64
  | .finite negative s e =>
    let (num, den) := ratio s e
    ofRatio negative num (den * n)
  | x => x

/-- The greatest integer that is not above a finite number. -/
def floor : Binary64 → Int
  | .finite negative s e =>
    let (num, den) := ratio s e
    if negative then -(((num + den - 1) / den : Nat) : Int) else ((num / den : Nat) : Int)
  | _ => 0

/-- What a finite number has beside its whole part, that part being cut toward zero. It has the sign
of the number and is exact. -/
def excess : Binary64 → Binary64
  | .finite negative s e =>
    let (num, den) := ratio s e
    ofRatio negative (num % den) den
  | x => x

/-- What a finite number has above the greatest integer that is not above it, rounded once. -/
def fraction (x : Binary64) : Binary64 :=
  match x.excess with
  | .finite true (s + 1) e => (Binary64.finite true (s + 1) e).add (ofInt 1)
  | y => y

/-- The integer nearest to a finite number, a tie going to the even one. -/
def nearestInt : Binary64 → Int
  | .finite negative s e =>
    let (num, den) := ratio s e
    let n : Int := roundQuotient num den
    if negative then -n else n
  | _ => 0

end SurveyChecks.Binary64
