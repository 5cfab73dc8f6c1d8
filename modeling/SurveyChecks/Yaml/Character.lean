/-!
# Characters of YAML

The classes of characters on which the structure of a YAML text rests.
-/

namespace SurveyChecks.Yaml

/-- The characters that end a line. -/
def isBreak (c : Char) : Bool :=
  c == '\n' || c == '\r' || c == '\u0085' || c == '\u2028' || c == '\u2029'

/-- A space or a tab. -/
def isSpaceOrTab (c : Char) : Bool := c == ' ' || c == '\t'

/-- The characters that separate tokens. -/
def isGap (c : Char) : Bool := c == '\x00' || isSpaceOrTab c || isBreak c

/-- Whether the next character separates tokens or there is none. -/
def gapNext : List Char → Bool
  | [] => true
  | c :: _ => isGap c

/-- Whether the line ends here. -/
def lineEnds : List Char → Bool
  | [] => true
  | c :: _ => isBreak c

/-- Whether the line ends here or a space follows. -/
def spaceOrEnd : List Char → Bool
  | [] => true
  | c :: _ => c == ' ' || isBreak c

/-- Whether one of the two lines that separate documents starts here: three hyphens or three points
before a gap. -/
def atDocumentLine (cs : List Char) : Bool :=
  match cs with
  | '-' :: '-' :: '-' :: r => gapNext r
  | '.' :: '.' :: '.' :: r => gapNext r
  | _ => false

/-- The mark that may stand before a text to tell its encoding. -/
def byteOrderMark : Char := '\uFEFF'

/-- Whether a character may occur in a text. -/
def isAllowed (c : Char) : Bool :=
  let n := c.toNat
  n == 0x9 || n == 0xA || n == 0xD || (0x20 ≤ n && n ≤ 0x7E) || n == 0x85 ||
    (0xA0 ≤ n && n ≤ 0xD7FF) || (0xE000 ≤ n && n ≤ 0xFFFD) || 0x10000 ≤ n

/-- The characters of which names are made: ASCII letters, digits, hyphens and underscores. -/
def isNameChar (c : Char) : Bool := c.isAlphanum || c == '-' || c == '_'

end SurveyChecks.Yaml
