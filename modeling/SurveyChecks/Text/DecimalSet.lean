import SurveyChecks.Text.CharSet

/-!
# Decimal digits

The decimal digits of every script (Unicode 14).
-/

namespace SurveyChecks.Text

/-- The decimal digits of every script. -/
def decimalDigits : CharSet where
  rows := [
    [0x30, 0x3A, 0x660, 0x66A, 0x6F0, 0x6FA, 0x7C0, 0x7CA, 0x966, 0x970, 0x9E6, 0x9F0],
    [0xA66, 0xA70, 0xAE6, 0xAF0, 0xB66, 0xB70, 0xBE6, 0xBF0, 0xC66, 0xC70, 0xCE6, 0xCF0],
    [0xD66, 0xD70, 0xDE6, 0xDF0, 0xE50, 0xE5A, 0xED0, 0xEDA, 0xF20, 0xF2A, 0x1040, 0x104A],
    [0x1090, 0x109A, 0x17E0, 0x17EA, 0x1810, 0x181A, 0x1946, 0x1950, 0x19D0, 0x19DA, 0x1A80, 0x1A8A],
    [0x1A90, 0x1A9A, 0x1B50, 0x1B5A, 0x1BB0, 0x1BBA, 0x1C40, 0x1C4A, 0x1C50, 0x1C5A, 0xA620, 0xA62A],
    [0xA8D0, 0xA8DA, 0xA900, 0xA90A, 0xA9D0, 0xA9DA, 0xA9F0, 0xA9FA, 0xAA50, 0xAA5A, 0xABF0, 0xABFA],
    [0xFF10, 0xFF1A, 0x104A0, 0x104AA, 0x10D30, 0x10D3A, 0x11066, 0x11070, 0x110F0, 0x110FA, 0x11136, 0x11140],
    [0x111D0, 0x111DA, 0x112F0, 0x112FA, 0x11450, 0x1145A, 0x114D0, 0x114DA, 0x11650, 0x1165A, 0x116C0, 0x116CA],
    [0x11730, 0x1173A, 0x118E0, 0x118EA, 0x11950, 0x1195A, 0x11C50, 0x11C5A, 0x11D50, 0x11D5A, 0x11DA0, 0x11DAA],
    [0x16A60, 0x16A6A, 0x16AC0, 0x16ACA, 0x16B50, 0x16B5A, 0x1D7CE, 0x1D800, 0x1E140, 0x1E14A, 0x1E2F0, 0x1E2FA],
    [0x1E950, 0x1E95A, 0x1FBF0, 0x1FBFA]]

/-- Where the range that holds `n` starts, among ranges given by their boundaries. -/
def rangeStart? : List Nat → Nat → Option Nat
  | first :: bound :: bs, n =>
    if n < first then none else if n < bound then some first else rangeStart? bs n
  | _, _ => none

/-- The ASCII digit of the same value as a digit of any script; other characters stay as they are.
Every range of digits starts with a zero. -/
def asciiDigit (c : Char) : Char :=
  match rangeStart? decimalDigits.boundaries c.toNat with
  | some first => Char.ofNat ('0'.toNat + (c.toNat - first) % 10)
  | none => c

end SurveyChecks.Text
