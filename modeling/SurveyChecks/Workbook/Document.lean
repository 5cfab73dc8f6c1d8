import SurveyChecks.Json.Reader
import SurveyChecks.Workbook

/-!
# Workbooks as documents

A workbook written down as text: a JSON list with a map for every sheet, which gives its name and
its rows of cells.
-/

namespace SurveyChecks.Workbook

/-- The row of cells that data describe. -/
def rowOfData? : Data → Option (List Data)
  | .list cells => some cells
  | _ => none

/-- The name and the grid of the sheet that data describe. -/
def sheetOfData? : Data → Option (String × List (List Data))
  | .map m =>
    match OrderedMap.get? m (.text "name"), OrderedMap.get? m (.text "rows") with
    | some (.scalar (.text name)), some (.list rows) => (rows.mapM rowOfData?).map (name, ·)
    | _, _ => none
  | _ => none

/-- The workbook that a text describes. -/
def ofText? (text : String) : Option Workbook :=
  match Json.read text with
  | .ok (.list sheets) => do (keep (← sheets.mapM sheetOfData?)).toOption
  | _ => none

end SurveyChecks.Workbook
