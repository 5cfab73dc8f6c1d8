/-!
# Base 64

Bytes as characters: three bytes make four characters of six bits each. What is read may have other
characters between them, which are passed over; the last group is filled up with equals signs.
-/

namespace SurveyChecks.Text.Base64

/-- The characters for the numbers below 64, in order. -/
def alphabet : List Char :=
  "ABCDEFGHIJKLMNOPQRSTUVWXYZabcdefghijklmnopqrstuvwxyz0123456789+/".toList

/-- The number that a character stands for. -/
def sextet? (c : Char) : Option Nat := alphabet.idxOf? c

/-- The character for a number below 64. -/
def character (n : Nat) : Char := alphabet.getD n '='

/-! ## Reading -/

/-- The bytes of the characters that are left: so many characters of a group were read, of which the
bits `held` are not yet in a byte, and since the last one so many equals signs. The text ends with
the equals signs that fill a group; without them it must end with a group. -/
def decodeFrom : (place held fillers : Nat) → List Char → Option (List UInt8)
  | place, _, _, [] => if place = 0 then some [] else none
  | place, held, fillers, c :: cs =>
    if c = '=' then
      if place < 2 then decodeFrom place held fillers cs
      else if 4 ≤ place + fillers + 1 then some []
      else decodeFrom place held (fillers + 1) cs
    else
      match sextet? c, place with
      | none, _ => decodeFrom place held fillers cs
      | some n, 0 => decodeFrom 1 n 0 cs
      | some n, 1 => (decodeFrom 2 (n % 16) 0 cs).map ((4 * held + n / 16).toUInt8 :: ·)
      | some n, 2 => (decodeFrom 3 (n % 4) 0 cs).map ((16 * held + n / 4).toUInt8 :: ·)
      | some n, _ => (decodeFrom 0 0 0 cs).map ((64 * held + n).toUInt8 :: ·)

/-- The bytes that characters stand for; there are none when the last group is not filled. -/
def decode? (cs : List Char) : Option (List UInt8) := decodeFrom 0 0 0 cs

/-! ## Writing -/

/-- The characters of bytes. -/
def encode : List UInt8 → List Char
  | [] => []
  | [a] => [character (a.toNat / 4), character (a.toNat % 4 * 16), '=', '=']
  | [a, b] =>
    [character (a.toNat / 4), character (a.toNat % 4 * 16 + b.toNat / 16),
      character (b.toNat % 16 * 4), '=']
  | a :: b :: c :: bs =>
    character (a.toNat / 4) :: character (a.toNat % 4 * 16 + b.toNat / 16) ::
      character (b.toNat % 16 * 4 + c.toNat / 64) :: character (c.toNat % 64) :: encode bs

/-- The number of bytes that are written on a line. -/
def lineBytes : Nat := 57

/-- The characters of bytes in lines; at most `fuel` lines are written. -/
def encodeLinesWithin : (fuel : Nat) → List UInt8 → List (List Char)
  | fuel + 1, b :: bs =>
    encode ((b :: bs).take lineBytes) :: encodeLinesWithin fuel ((b :: bs).drop lineBytes)
  | _, _ => []

/-- The characters of bytes in lines. -/
def encodeLines (bs : List UInt8) : List (List Char) := encodeLinesWithin (bs.length + 1) bs

end SurveyChecks.Text.Base64
