import SurveyChecks.Text.Edit
import SurveyChecks.Workbook.Serial

/-!
# Cells of workbooks

What a spreadsheet file keeps of a value. A number keeps sixteen significant digits, a time its
milliseconds, a text itself with all lines ended by line feeds. A whole number becomes an
integer and a date the moment at which it starts. Nothing can be read where an empty text, a formula
or a number that is not finite was put.
-/

namespace SurveyChecks.Workbook

open SurveyChecks.Text

/-! ## Texts -/

/-- Whether a text is a formula, whose value nobody has computed. -/
def isFormula : List Char → Bool
  | '=' :: _ :: _ => true
  | _ => false

/-- What is kept of a text. -/
def keptText (s : String) : Scalar :=
  let cs := s.toList
  if cs.isEmpty || isFormula cs then .null else .text (String.ofList (lineFeeds cs))

/-! ## Numbers -/

/-- What is kept of a number. A whole number is an integer unless it has more digits than are kept.
-/
def keptNumber : Binary64 → Scalar
  | .finite negative s e =>
    let y := (Binary64.finite negative s e).roundedTo keptDigits
    match y.toInt? with
    | some i => if i.natAbs < Nat.pow 10 keptDigits then .int i else .real y
    | none => .real y
  | _ => .null

/-! ## Cells -/

/-- What is kept of a value. -/
def keptCell : Scalar → Scalar
  | .text s => keptText s
  | .int i => keptNumber (.ofInt i)
  | .real x => keptNumber x
  | .date d => keptMoment d .midnight
  | .time t => keptTime t
  | .moment ⟨d, t, _⟩ => keptMoment d t
  | s => s

end SurveyChecks.Workbook
