import SurveyChecks.Form.Label
import SurveyChecks.Form.Sheet
import SurveyChecks.Note
import SurveyChecks.Text.Digits

/-!
# Choices

The options of choice lists. A row of the choices sheet is an option when its name is a value code,
that is, when it has digits only; the other rows with content only count. Choices are then filed by
list, the first choice of each code.
-/

namespace SurveyChecks

open SurveyChecks.Text

/-- A value-coded option of a choice list. -/
structure Choice where
  /-- The name of the list, without spaces. -/
  list : String
  /-- The value code. -/
  code : Int
  /-- The label, safe for scripts. -/
  label : String
  /-- The number of the row among the rows with content. -/
  order : Int
  deriving DecidableEq, Repr, Inhabited

namespace Choice

/-! ## Reading rows -/

/-- The greatest number of digits that a value code may have. -/
def maxDigits : Nat := 4300

/-- What a row with content turns out to be. -/
inductive Reading where
  /-- An option. -/
  | choice (c : Choice)
  /-- A row whose name is no value code. -/
  | notCoded (number : Nat) (name : String)
  /-- A row whose value code has too many digits. -/
  | tooLong
  /-- A row that cannot be read, because a cell that is looked at has no text. -/
  | noText

/-- The column of the list names: the older name of the column counts when the newer is absent. -/
def listColumn (columns : List String) : String :=
  if columns.contains "list_name" then "list_name" else "listname"

/-- The name of a row, in which a first hyphen counts as an underscore. -/
def rowName (row : Row) : String :=
  replaceFirst '-' '_' (strip (Label.withoutLineBreaks (row.text "name")))

/-- Whether a name is a value code. -/
def isCode (name : String) : Bool := name != "" && name.toList.all isDigit

/-- Reads a row with content. The cells are looked at in turn: those up to the first that is filled,
the name and, when that is a value code, the list and the label. -/
def ofRow (listColumn : String) (row : Row) (number : Nat) : Reading :=
  let name := rowName row
  if !(row.isSearchable && row.hasTexts ["name"]) then .noText
  else if !isCode name then .notCoded number name
  else if !row.hasTexts [listColumn] then .noText
  else if maxDigits < name.length then .tooLong
  else if !row.hasTexts ["label"] then .noText
  else
    .choice {
      list := without (· == ' ') (row.text listColumn)
      code := decimalValue name.toList
      label := Label.safe false (row.text "label")
      order := number }

/-- The readings of the rows with content, numbered from one. -/
def readings (sheet : Sheet) : List Reading :=
  ((sheet.rows.filter Row.hasContent).zipIdx 1).map fun (row, number) =>
    ofRow (listColumn sheet.columns) row number

/-- The choices among readings, of which none may fail. -/
def ofReadings : List Reading → Except FormError (List Choice)
  | [] => .ok []
  | .choice c :: rs => (ofReadings rs).map (c :: ·)
  | .notCoded .. :: rs => ofReadings rs
  | .tooLong :: _ => .error .codeTooLong
  | .noText :: _ => .error .numeralTooLong

/-- The columns that a choices sheet needs. -/
def requiredColumns (columns : List String) : List String := [listColumn columns, "name", "label"]

/-- The choices of a sheet, in order. -/
def load (sheet : Sheet) : Except FormError (List Choice) := do
  sheet.require (requiredColumns sheet.columns)
  ofReadings (readings sheet)

/-! ## Notes -/

/-- The notes about rows that are no options, up to a row that fails. -/
def skipNotes : List Reading → List Note
  | [] => []
  | .choice _ :: rs => skipNotes rs
  | .notCoded number name :: rs =>
    ⟨.debug, s!"Skipping choice row {number}: name {quoted name} is not a value code"⟩ ::
      skipNotes rs
  | .tooLong :: _ | .noText :: _ => []

/-- The notes that loading a sheet makes. -/
def loadNotes (sheet : Sheet) : List Note :=
  match sheet.require (requiredColumns sheet.columns) with
  | .ok () => skipNotes (readings sheet)
  | .error _ => []

/-! ## Lists -/

/-- The choices in ascending order; those of the same order keep their sequence. -/
def inOrder (cs : List Choice) : List Choice := cs.mergeSort fun a b => decide (a.order ≤ b.order)

/-- Whether two choices stand for the same code of the same list. -/
def sameCode (a b : Choice) : Bool := a.list == b.list && a.code == b.code

/-- The first choice of each code of each list. -/
def firstOfEach : List Choice → List Choice
  | [] => []
  | c :: cs => c :: (firstOfEach cs).filter fun d => !sameCode c d

/-- The choices filed by list, lists in the order of their first choice, codes without repetition.
-/
def lists (cs : List Choice) : OrderedMap String (List Choice) :=
  OrderedMap.groupBy Choice.list (firstOfEach (inOrder cs))

end Choice

end SurveyChecks
