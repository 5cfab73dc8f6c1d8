/-!
# Notes

What a run says about itself beside its result: one line of text at a level of importance.
-/

namespace SurveyChecks

/-- How important a note is. -/
inductive Level where
  /-- Details of interest when looking into a form. -/
  | debug
  /-- What was done. -/
  | info
  /-- Something that may be unintended. -/
  | warning
  /-- Why a run ended early. -/
  | error
  deriving DecidableEq, Repr

/-- The word that introduces a note of the level. -/
def Level.word : Level → String
  | .debug => "DEBUG"
  | .info => "INFO"
  | .warning => "WARNING"
  | .error => "ERROR"

/-- A line about a run. -/
structure Note where
  /-- Its importance. -/
  level : Level
  /-- Its text. -/
  text : String
  deriving DecidableEq, Repr

/-- The note as a line. -/
def Note.line (n : Note) : String := n.level.word ++ ": " ++ n.text

end SurveyChecks
