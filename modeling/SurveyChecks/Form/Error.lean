import SurveyChecks.Text.Quoted

/-!
# Errors in forms

Why a form cannot be read. The wording of each cause is in `FormError.message`.
-/

namespace SurveyChecks

open SurveyChecks.Text

/-- Why a form cannot be read. -/
inductive FormError where
  /-- A sheet lacks columns. -/
  | missingColumns (sheet : String) (columns : List String)
  /-- A workbook lacks sheets. -/
  | missingSheets (file : String) (sheets : List String)
  /-- There is no workbook at the path. -/
  | noWorkbook (path : String)
  /-- The path of a workbook is too long. -/
  | nameTooLong
  /-- The name of a file is not that of a workbook. -/
  | notAWorkbookName
  /-- A file with the name of a workbook is none. -/
  | notAWorkbook
  /-- A workbook holds a character that cannot be read back. -/
  | unreadable
  /-- A value code has more digits than can be read. -/
  | codeTooLong
  /-- The numeral of an integer in a cell is too long to be written. -/
  | numeralTooLong
  /-- The numbers of opening and of closing rows of repeat groups differ. -/
  | unbalancedRepeats (opening closing : Nat)
  /-- The opening row of the given order has no closing row after it. -/
  | unclosedRepeat (order : Int)
  /-- A question belongs to a repeat group that does not exist. -/
  | unknownGroup (index : Int)
  deriving DecidableEq, Repr

namespace FormError

/-- The wording of an error. -/
def message : FormError → String
  | .missingColumns sheet columns =>
    "Sheet '" ++ sheet ++ "' is missing required columns: " ++ quotedList columns
  | .missingSheets file sheets =>
    "Missing required sheet(s) in " ++ file ++ ": " ++ quotedList sheets
  | .noWorkbook path => "XLSForm not found: " ++ path
  | .nameTooLong => "the path of the workbook is too long"
  | .notAWorkbookName => "the file is not named as a workbook"
  | .notAWorkbook => "the file is not a workbook"
  | .unreadable => "the workbook cannot be read"
  | .codeTooLong => "a value code has more than 4300 digits"
  | .numeralTooLong => "an integer has more than 4300 digits"
  | .unbalancedRepeats opening closing =>
    s!"Unbalanced repeat groups: {opening} begin_repeat rows but {closing} end_repeat rows"
  | .unclosedRepeat order => s!"begin_repeat at row {order} has no matching end_repeat"
  | .unknownGroup index => s!"there is no repeat group {index}"

end FormError

end SurveyChecks
