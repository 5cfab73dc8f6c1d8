/-!
# Surrogates

The numbers from 0xD800 to 0xDFFF stand for a character in pairs only. An escape may give one of
them alone, which is no character: it cannot be stored in a file, but it can be written as an escape
again. In a text it is kept as the private character that is 0x100000 above it.

So the private characters from U+10D800 to U+10DFFF do not stand for themselves: they are outside the
encoding of texts, and a text that is meant to hold one of them is not represented here. All other
characters are kept as they are.
-/

namespace SurveyChecks.Text

/-- Whether a number stands for a character in pairs only. -/
def isSurrogate (n : Nat) : Bool := decide (0xD800 ≤ n) && decide (n < 0xE000)

/-- How far above a lone surrogate the character is that is kept for it. -/
def surrogateDistance : Nat := 0x100000

/-- The character that is kept for a number. -/
def charOfCode (n : Nat) : Char :=
  Char.ofNat (if isSurrogate n then n + surrogateDistance else n)

/-- The number that a character stands for. -/
def codeOf (c : Char) : Nat :=
  let n := c.toNat - surrogateDistance
  if isSurrogate n then n else c.toNat

/-- Whether a text can be stored in a file: it holds no lone surrogates. -/
def isStorable (s : String) : Bool := s.toList.all fun c => !isSurrogate (codeOf c)

end SurveyChecks.Text
