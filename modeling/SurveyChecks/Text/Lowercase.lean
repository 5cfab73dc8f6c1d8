import SurveyChecks.Text.CasedSet
import SurveyChecks.Text.LowerRuns

/-!
# Small letters

The full lower-case mapping of a text. It maps character by character, with two exceptions: the
dotted capital I becomes two characters, and a capital sigma at the end of a word takes its final
form.
-/

namespace SurveyChecks.Text

namespace LowerRun

/-- Whether the code point is a capital of this run. -/
def covers (r : LowerRun) (n : Nat) : Bool :=
  decide (r.first ≤ n) && decide (n ≤ r.last) && (n - r.first) % r.step == 0

/-- The small form of a capital of this run. -/
def lower (r : LowerRun) (n : Nat) : Char := Char.ofNat (n + r.shift).toNat

end LowerRun

/-- The small form of a single character, the character itself when it has none. -/
def lowerChar (c : Char) : Char :=
  match lowerRuns.find? (·.covers c.toNat) with
  | some r => r.lower c.toNat
  | none => c

/-- Whether the next letter is cased, after skipping the case-ignorable characters. -/
def meetsCased (cs : List Char) : Bool :=
  match cs.dropWhile caseIgnorableChars.contains with
  | [] => false
  | c :: _ => casedChars.contains c

/-- The small forms of `c` between the characters before it (nearest first) and after it. -/
def lowerAt (before : List Char) (c : Char) (after : List Char) : List Char :=
  if c = 'Σ' then
    if meetsCased before && !meetsCased after then ['ς'] else ['σ']
  else if c = 'İ' then ['i', '\u0307']
  else [lowerChar c]

/-- Lower-cases the characters that follow `before` (nearest first). -/
def lowerAfter (before : List Char) : List Char → List Char
  | [] => []
  | c :: cs => lowerAt before c cs ++ lowerAfter (c :: before) cs

/-- The text in small letters. -/
def lower (s : String) : String := String.ofList (lowerAfter [] s.toList)

end SurveyChecks.Text
