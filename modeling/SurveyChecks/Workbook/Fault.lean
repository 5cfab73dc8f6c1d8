import SurveyChecks.Binary64.Basic
import SurveyChecks.Data.Basic

/-!
# What no workbook keeps

Why a spreadsheet file cannot be written. The names of the sheets and the values are looked at in
turn when they are put in place, moments and numbers once more when the file is stored.
-/

namespace SurveyChecks

/-- Why a workbook cannot be written. -/
inductive WorkbookFault where
  /-- There are no sheets. -/
  | noSheets
  /-- The name of a sheet has a character that is kept for formulas. -/
  | sheetName
  /-- A collection was put into a cell. -/
  | collection
  /-- A text has a control character. -/
  | controlCharacter
  /-- A moment is told with an offset. -/
  | offset
  /-- An integer is too great. -/
  | tooGreat
  deriving DecidableEq, Repr

namespace Workbook

/-- The greatest length of a text. -/
def maxTextLength : Nat := 32767

/-- Whether a character stands for something else in references to sheets. -/
def isReserved (c : Char) : Bool := ['\\', '*', '?', ':', '/', '[', ']'].contains c

/-- Whether a character is a control character other than a tab and the ends of lines. -/
def isControl (c : Char) : Bool :=
  decide (c < ' ') && c != '\t' && c != '\n' && c != '\r'

/-- The name of a sheet when it is put in place. -/
def checkedName (name : String) : Except WorkbookFault String :=
  if name.toList.any isReserved then .error .sheetName else .ok name

/-- A value when it is put into a cell. -/
def checkedCell (d : Data) : Except WorkbookFault Scalar :=
  match d.opened with
  | .scalar (.text s) =>
    let cs := s.toList.take maxTextLength
    if cs.any isControl then .error .controlCharacter else .ok (.text (String.ofList cs))
  | .scalar s => .ok s
  | _ => .error .collection

/-- A value when it is stored. -/
def checkedValue : Scalar → Except WorkbookFault Scalar
  | .moment ⟨_, _, some _⟩ => .error .offset
  | .int i =>
    match Binary64.ofInt i with
    | .infinite _ => .error .tooGreat
    | _ => .ok (.int i)
  | s => .ok s

end Workbook

end SurveyChecks
