import SurveyChecks.Form.Sheet
import SurveyChecks.Note
import SurveyChecks.Workbook.Cell
import SurveyChecks.Workbook.Fault
import SurveyChecks.Workbook.SheetName

/-!
# Workbooks

A workbook holds the grids of its sheets by name, as a spreadsheet file keeps them: the rows of a
sheet have the same length, and no two names differ in case only.
-/

namespace SurveyChecks

open SurveyChecks.Text

/-- A workbook. -/
structure Workbook where
  /-- The grids of the sheets, by the name of the sheet. -/
  sheets : List (String × List (List Scalar))
  deriving Inhabited

namespace Workbook

/-! ## Keeping -/

/-- What a spreadsheet file keeps of a grid: the rows are filled up to the longest. -/
def keptGrid (grid : List (List Scalar)) : List (List Scalar) :=
  let width := ((grid.map List.length).max?).getD 0
  grid.map fun row => row.map keptCell ++ List.replicate (width - row.length) .null

/-- The name of a sheet that is given none. -/
def presetName : String := "Sheet"

/-- Adds the sheet of a grid at the end. -/
def addSheet (w : Workbook) (name : String) (grid : List (List Scalar)) : Workbook :=
  let name := if name = "" then presetName else name
  ⟨w.sheets ++ [(freeName (w.sheets.map (·.1)) name, keptGrid grid)]⟩

/-- The workbook that keeps the given grids. -/
def keeping (sheets : List (String × List (List Scalar))) : Workbook :=
  sheets.foldl (fun w (name, grid) => w.addSheet name grid) ⟨[]⟩

/-- A sheet when it is put in place. -/
def checkedSheet : String × List (List Data) → Except WorkbookFault (String × List (List Scalar))
  | (name, grid) => do
    let name ← checkedName name
    return (name, ← grid.mapM (·.mapM checkedCell))

/-- The workbook that keeps the given grids, if they can be kept. -/
def keep (sheets : List (String × List (List Data))) : Except WorkbookFault Workbook := do
  let sheets ← sheets.mapM checkedSheet
  if sheets.isEmpty then throw .noSheets
  sheets.forM fun (_, grid) => grid.forM fun row => row.forM fun s => discard (checkedValue s)
  return keeping sheets

/-! ## Reading -/

/-- Whether a character can be read back from a file. -/
def isReadable (c : Char) : Bool := c != '\uFFFE' && c != '\uFFFF'

/-- Whether a cell can be read back. -/
def isReadableCell : Scalar → Bool
  | .text s => s.toList.all isReadable
  | _ => true

/-- Whether the names of all sheets can be read back. -/
def hasReadableNames (w : Workbook) : Bool :=
  w.sheets.all fun (name, _) => name.toList.all fun c => isReadable c && !isControl c

/-- Whether there is a sheet of a name. -/
def hasSheet (w : Workbook) (name : String) : Bool := (w.sheets.lookup name).isSome

/-- The sheet of a name. An integer is read as a numeral, which must not be too long. -/
def readSheet (w : Workbook) (name : String) : Except FormError Sheet :=
  let grid := (w.sheets.lookup name).getD []
  if !grid.all (·.all isReadableCell) then .error .unreadable
  else if !grid.all (·.all Scalar.hasText) then .error .numeralTooLong
  else Sheet.ofGrid name (grid.map (·.map Data.scalar))

/-- The sheets of the names, by name; `file` is the name of the workbook. -/
def readSheets (w : Workbook) (file : String) (names : List String) :
    Except FormError (OrderedMap String Sheet) :=
  match names.filter fun n => !w.hasSheet n with
  | [] => (names.mapM fun n => (w.readSheet n).map (n, ·)).map OrderedMap.ofPairs
  | missing => .error (.missingSheets file missing)

/-- The sheets of the names up to the first that cannot be read. -/
def firstSheets (w : Workbook) : List String → List Sheet
  | [] => []
  | n :: ns =>
    match w.readSheet n with
    | .ok s => s :: w.firstSheets ns
    | .error _ => []

/-- The note that a sheet was read. -/
def readNote (s : Sheet) : Note := ⟨.debug, s!"Read sheet {quoted s.name}: {s.rows.length} rows"⟩

/-- The notes that reading sheets makes. -/
def readNotes (w : Workbook) (names : List String) : List Note :=
  if names.all w.hasSheet then (w.firstSheets names).map readNote else []

end Workbook

end SurveyChecks
