import SurveyChecks.Data.Basic
import SurveyChecks.Form.Error
import SurveyChecks.Text.Blank

/-!
# Sheets

A sheet of a form: the texts of its header and its rows, each a map from column to cell. A grid of
raw cells becomes a sheet by taking its first row as the header; columns without a header and rows
without content are left out. A cell that is looked at must have a text, which the integers of more
than 4300 digits have not.
-/

namespace SurveyChecks

open SurveyChecks.Text

/-- A row of a sheet: the cells by column. -/
abbrev Row := OrderedMap String Data

namespace Row

/-- The cell in a column, an empty one when there is none. -/
def cell (row : Row) (column : String) : Data := (row.get? column).getD .null

/-- The text of the cell in a column, empty when there is none. -/
def text (row : Row) (column : String) : String := (row.cell column).cellText

/-- Whether the cells in some columns have texts. -/
def hasTexts (row : Row) (columns : List String) : Bool := columns.all fun c => (row.cell c).hasText

/-- Whether a cell counts as content: its text is not blank, or it has none. -/
def isFilled (cell : Data) : Bool := !cell.hasText || strip cell.cellText != ""

/-- Whether some cell is filled. -/
def hasContent (row : Row) : Bool := row.any fun (_, cell) => isFilled cell

/-- Whether content can be looked for, cell by cell: the first that is filled has a text. -/
def isSearchable (row : Row) : Bool :=
  (row.find? fun (_, cell) => isFilled cell).all fun (_, cell) => cell.hasText

end Row

/-- A sheet. -/
structure Sheet where
  /-- The name of the sheet. -/
  name : String
  /-- The columns in order. -/
  columns : List String
  /-- The rows in order. -/
  rows : List Row

namespace Sheet

/-- The required columns that the sheet lacks, in the order required. -/
def missing (s : Sheet) (required : List String) : List String :=
  required.filter fun c => !s.columns.contains c

/-- Fails when the sheet lacks one of the required columns. -/
def require (s : Sheet) (required : List String) : Except FormError Unit :=
  match s.missing required with
  | [] => .ok ()
  | columns => .error (.missingColumns s.name columns)

/-! ## Sheets from grids -/

/-- Each header with the cell below it, an empty one where the row has ended. Cells beyond the
header are dropped. -/
def pairUp : List String → List Data → List (String × Data)
  | [], _ => []
  | h :: hs, [] => (h, .null) :: pairUp hs []
  | h :: hs, c :: cs => (h, c) :: pairUp hs cs

/-- The row of the cells below the headers that are not empty. -/
def rowUnder (header : List String) (cells : List Data) : Row :=
  OrderedMap.ofPairs ((pairUp header cells).filter fun (h, _) => h != "")

/-- The header that a row of cells gives. -/
def headerOf (top : List Data) : List String := top.map fun c => strip c.cellText

/-- The sheet of a grid of cells whose first row is the header. It takes the texts of the header and,
of each row, those of the cells up to the first that is filled. -/
def ofGrid (name : String) : List (List Data) → Except FormError Sheet
  | [] => .ok ⟨name, [], []⟩
  | top :: body =>
    let header := headerOf top
    let rows := body.map (rowUnder header)
    if top.all Data.hasText && rows.all Row.isSearchable then
      .ok ⟨name, header.filter (· != ""), rows.filter Row.hasContent⟩
    else .error .numeralTooLong

end Sheet

end SurveyChecks
