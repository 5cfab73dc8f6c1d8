/-!
# Digits

Decimal and hexadecimal numerals of natural numbers: their characters, their values, and numerals of
a fixed width.
-/

namespace SurveyChecks.Text

/-- An ASCII decimal digit. -/
def isDigit (c : Char) : Bool := decide ('0' ≤ c) && decide (c ≤ '9')

/-- The value of a decimal digit. -/
def digitValue (c : Char) : Nat := c.toNat - '0'.toNat

/-- The value of a hexadecimal digit of either case. -/
def hexValue? (c : Char) : Option Nat :=
  if isDigit c then some (digitValue c)
  else if decide ('a' ≤ c) && decide (c ≤ 'f') then some (c.toNat - 'a'.toNat + 10)
  else if decide ('A' ≤ c) && decide (c ≤ 'F') then some (c.toNat - 'A'.toNat + 10)
  else none

/-- The number that decimal digits denote, read from the left after `n`. -/
def decimalValueFrom (n : Nat) (cs : List Char) : Nat :=
  cs.foldl (fun a c => 10 * a + digitValue c) n

/-- The number that decimal digits denote; leading zeros do not matter. -/
def decimalValue (cs : List Char) : Nat := decimalValueFrom 0 cs

/-- The number that digits denote in base `b`, `none` when one of them is no digit of the base. -/
def valueInBase? (b : Nat) : List Char → Option Nat :=
  fun cs => cs.foldl (fun a c => do
    let n ← a
    let d ← hexValue? c
    if d < b then some (b * n + d) else none) (some 0)

/-- The decimal numeral of `n`, filled with zeros on the left up to `width` characters. -/
def decimalPadded (width n : Nat) : String :=
  String.ofList ((Nat.toDigits 10 n).leftpad width '0')

/-- The hexadecimal numeral of `n` in small letters, filled with zeros up to `width` characters. -/
def hexPadded (width n : Nat) : String :=
  String.ofList ((Nat.toDigits 16 n).leftpad width '0')

/-- The hexadecimal numeral of `n` in capitals, filled with zeros up to `width` characters. -/
def hexPaddedUpper (width n : Nat) : String :=
  String.ofList (((Nat.toDigits 16 n).map Char.toUpper).leftpad width '0')

theorem decimalValueFrom_append (n : Nat) (xs ys : List Char) :
    decimalValueFrom n (xs ++ ys) = decimalValueFrom (decimalValueFrom n xs) ys := by
  simp [decimalValueFrom]

end SurveyChecks.Text
