/-!
# Blank characters

Which characters count as white space, and the operations on texts that depend on it: trimming both
ends and splitting into words.
-/

namespace SurveyChecks.Text

/-- White space of every script: the control characters tab to carriage return and the four
information separators, the next-line control, and every space, line and paragraph separator. The
zero-width characters are not blank. -/
def isBlank (c : Char) : Bool :=
  let n := c.toNat
  (0x9 ≤ n && n ≤ 0xD) || (0x1C ≤ n && n ≤ 0x20) || n == 0x85 || n == 0xA0 || n == 0x1680 ||
    (0x2000 ≤ n && n ≤ 0x200A) || n == 0x2028 || n == 0x2029 || n == 0x202F || n == 0x205F ||
    n == 0x3000

/-! ## Trimming -/

/-- The characters without the blanks at their end. -/
def stripEnd : List Char → List Char
  | [] => []
  | c :: cs =>
    match stripEnd cs with
    | [] => if isBlank c then [] else [c]
    | r => c :: r

/-- The characters without the blanks at either end. -/
def stripChars (cs : List Char) : List Char := stripEnd (cs.dropWhile isBlank)

/-- The text without the blanks at either end. -/
def strip (s : String) : String := String.ofList (stripChars s.toList)

/-- White space around numerals: the information separators are none. -/
def isNumeralBlank (c : Char) : Bool :=
  isBlank c && !(decide ('\x1c' ≤ c) && decide (c ≤ '\x1f'))

/-- The characters without the blanks around a numeral. -/
def stripNumeral (cs : List Char) : List Char :=
  ((cs.dropWhile isNumeralBlank).reverse.dropWhile isNumeralBlank).reverse

/-! ## Words -/

/-- Puts `c` in front of the first word. -/
def extendFirst (c : Char) : List (List Char) → List (List Char)
  | [] => [[c]]
  | w :: ws => (c :: w) :: ws

/-- The maximal runs of characters that are not blank. -/
def splitWords : List Char → List (List Char)
  | [] => []
  | c :: cs =>
    if isBlank c then splitWords cs
    else
      match cs with
      | [] => [[c]]
      | d :: _ => if isBlank d then [c] :: splitWords cs else extendFirst c (splitWords cs)

/-- The words of a text: what lies between runs of blanks. -/
def words (s : String) : List String := (splitWords s.toList).map String.ofList

/-! ## Laws -/

theorem stripEnd_cons_of_ne_nil {c : Char} {cs : List Char} (h : stripEnd cs ≠ []) :
    stripEnd (c :: cs) = c :: stripEnd cs := by
  rw [stripEnd]
  split
  · contradiction
  · rfl

theorem splitWords_cons_of_blank {c : Char} {cs : List Char} (h : isBlank c = true) :
    splitWords (c :: cs) = splitWords cs := by
  rw [splitWords.eq_def]
  simp [h]

end SurveyChecks.Text
