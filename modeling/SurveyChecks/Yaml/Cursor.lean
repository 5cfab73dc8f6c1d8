import SurveyChecks.Yaml.Character

/-!
# Places in a text

What is left of a text at a place, with the line and the column of the place. Moving on is the only
operation: by one character, by a number of characters, or along a class of characters.
-/

namespace SurveyChecks.Yaml

/-- A place in a text. -/
structure Cursor where
  /-- The characters from the place on. -/
  rest : List Char
  /-- The number of characters before the place. -/
  index : Nat
  /-- The number of lines before the line of the place. -/
  line : Nat
  /-- The number of characters before the place on its line; a byte order mark does not count. -/
  column : Nat
  deriving Repr, Inhabited

namespace Cursor

/-- The place before a text. -/
def start (cs : List Char) : Cursor := ⟨cs, 0, 0, 0⟩

/-- Whether moving over `c`, before `rest`, leads to a new line. -/
def endsLine (c : Char) (rest : List Char) : Bool :=
  isBreak c && !(c == '\r' && rest.head? == some '\n')

/-- The next place. -/
def next (k : Cursor) : Cursor :=
  match k.rest with
  | [] => k
  | c :: r =>
    if endsLine c r then ⟨r, k.index + 1, k.line + 1, 0⟩
    else ⟨r, k.index + 1, k.line, if c = byteOrderMark then k.column else k.column + 1⟩

/-- The place `n` characters on. -/
def skip (k : Cursor) : Nat → Cursor
  | 0 => k
  | n + 1 => k.next.skip n

/-- The characters of a class from the place on. -/
def taken (p : Char → Bool) (k : Cursor) : List Char := k.rest.takeWhile p

/-- The place after the characters of a class. -/
def skipWhile (p : Char → Bool) (k : Cursor) : Cursor := k.skip (k.taken p).length

/-- The next character. -/
def head? (k : Cursor) : Option Char := k.rest.head?

/-- Whether the next character is `c`. -/
def isAt (k : Cursor) (c : Char) : Bool := k.rest.head? == some c

/-- What a line break reads as, and the place after it: the line and paragraph separators stand for
themselves, all others for a line feed. -/
def lineBreak? (k : Cursor) : Option (Char × Cursor) :=
  match k.rest with
  | '\r' :: '\n' :: _ => some ('\n', k.skip 2)
  | c :: _ =>
    if c = '\u2028' || c = '\u2029' then some (c, k.next)
    else if isBreak c then some ('\n', k.next)
    else none
  | [] => none

/-- The place after a line break, if there is one. -/
def skipBreak (k : Cursor) : Cursor := (k.lineBreak?.map (·.2)).getD k

/-- The place at the end of a comment that may start here. -/
def skipComment (k : Cursor) : Cursor := if k.isAt '#' then k.skipWhile (!isBreak ·) else k

end Cursor

end SurveyChecks.Yaml
