import SurveyChecks.Text.Digits
import SurveyChecks.Text.PrintableSet
import SurveyChecks.Text.Surrogate

/-!
# Quoted texts

A text as it is shown inside a message: between quotes, with the characters that cannot be shown
written as escapes.
-/

namespace SurveyChecks.Text

/-- The quote that surrounds a shown text: an apostrophe, unless the text has apostrophes and no
double quote. -/
def quoteFor (cs : List Char) : Char :=
  if cs.contains '\'' && !cs.contains '"' then '"' else '\''

/-- A character of a shown text between the quotes `quote`. -/
def shownChar (quote c : Char) : String :=
  if c = quote || c = '\\' then String.ofList ['\\', c]
  else if c = '\n' then "\\n"
  else if c = '\r' then "\\r"
  else if c = '\t' then "\\t"
  else if printableChars.contains c then c.toString
  else
    let n := codeOf c
    if n < 0x100 then "\\x" ++ hexPadded 2 n
    else if n < 0x10000 then "\\u" ++ hexPadded 4 n
    else "\\U" ++ hexPadded 8 n

/-- The text between quotes, with escapes. -/
def quoted (s : String) : String :=
  let cs := s.toList
  let quote := quoteFor cs
  String.join ([quote.toString] ++ cs.map (shownChar quote) ++ [quote.toString])

/-- Texts between quotes, with commas between them and brackets around. -/
def quotedList (xs : List String) : String :=
  "[" ++ ", ".intercalate (xs.map quoted) ++ "]"

end SurveyChecks.Text
