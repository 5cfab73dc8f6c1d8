import SurveyChecks.Text.Edit

/-!
# Labels

Labels become part of scripts, in which a dollar sign and a double quote have a meaning of their
own. A label is made safe character by character.
-/

namespace SurveyChecks

open SurveyChecks.Text

namespace Label

/-- A carriage return or a line feed. -/
def isLineBreak (c : Char) : Bool := c == '\r' || c == '\n'

/-- The text without its line breaks. -/
def withoutLineBreaks (s : String) : String := without isLineBreak s

/-- The text with number signs for dollar signs and without double quotes. -/
def withoutQuotes (s : String) : String := without (· == '"') (replaceChar '$' '#' s)

/-- A text made safe for scripts: number signs for dollar signs, no double quotes, and no line
breaks either when `oneLine` is set. -/
def safe (oneLine : Bool) (s : String) : String :=
  if oneLine then withoutLineBreaks (withoutQuotes s) else withoutQuotes s

end Label

end SurveyChecks
