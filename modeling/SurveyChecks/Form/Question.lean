import SurveyChecks.Form.Label
import SurveyChecks.Form.QuestionKind
import SurveyChecks.Form.Sheet
import SurveyChecks.Text.Lowercase
import SurveyChecks.Text.WordSet

/-!
# Questions

The rows of the survey sheet. A row is kept when it has a name; the row that closes a repeat group
is kept without one, because its place matters. The questions are numbered in order.
-/

namespace SurveyChecks

open SurveyChecks.Text

/-- The dataset of the questions outside all repeat groups. -/
def surveyDataset : String := "survey"

/-- A row of the survey sheet. -/
structure Question where
  /-- The variable name: small letters, no dots. -/
  name : String
  /-- The type as written. -/
  rawType : String
  /-- The words of the type. -/
  tokens : List String := []
  /-- The label in the default language. -/
  label : String := ""
  /-- The label used in scripts. -/
  workingLabel : String := ""
  /-- The expression that computes the value, if there is any; it may be empty. -/
  calculation : Option String := some ""
  /-- The place among the questions, from one. -/
  order : Int := 0
  /-- The kind, once it has been determined. -/
  kind : Option QuestionKind := none
  /-- The index of the innermost repeat group around the question. -/
  group : Option Int := none
  /-- The name of the dataset that holds the answers. -/
  dataset : String := surveyDataset
  deriving DecidableEq, Repr, Inhabited

namespace Question

/-- The first word of the type. -/
def base (q : Question) : String := q.tokens.head?.getD ""

/-- The choice list that a select question refers to. -/
def choiceList? (q : Question) : Option String :=
  if q.base = "select_one" ∨ q.base = "select_multiple" then q.tokens[1]? else none

/-- The word that opens a repeat group. -/
def beginRepeat : String := "begin_repeat"

/-- The word that closes a repeat group. -/
def endRepeat : String := "end_repeat"

/-- The questions in ascending order; those of the same order keep their sequence. -/
def inOrder (qs : List Question) : List Question :=
  qs.mergeSort fun a b => decide (a.order ≤ b.order)

/-! ## Types -/

/-- What follows `w` at the start of `cs`. -/
def after? (w : List Char) (cs : List Char) : Option (List Char) :=
  if w.isPrefixOf cs then some (cs.drop w.length) else none

/-- Whether a word ends before `cs`. -/
def atWordEnd : List Char → Bool
  | [] => true
  | c :: _ => !wordChars.contains c

/-- Joins `first` and `second`, which blanks separate at the start of `cs`, by an underscore; `none`
when `cs` does not start with the two words. -/
def joinWords? (first second : String) (cs : List Char) : Option (List Char) := do
  let rest ← after? first.toList cs
  let rest ← if (rest.takeWhile isBlank).isEmpty then none else some (rest.dropWhile isBlank)
  let rest ← after? second.toList rest
  if atWordEnd rest then some (first.toList ++ '_' :: (second.toList ++ rest)) else none

/-- The pairs of words by which groups of rows are opened and closed. -/
def structureWords : List (String × String) :=
  [("begin", "repeat"), ("begin", "group"), ("end", "repeat"), ("end", "group")]

/-- The type with the two words at its start joined when they open or close a group of rows. -/
def joinStructure (s : String) : String :=
  match structureWords.findSome? fun (a, b) => joinWords? a b s.toList with
  | some cs => String.ofList cs
  | none => s

/-! ## Reading rows -/

/-- Whether a column holds labels of some language. -/
def isLanguageLabel (column : String) : Bool :=
  "label:".toList.isPrefixOf (column.toList.map Char.toLower)

/-- The column of the labels in the default language. -/
def labelColumn? (columns : List String) : Option String :=
  if columns.contains "label" then some "label" else columns.find? isLanguageLabel

/-- The column of the labels used in scripts. -/
def workingLabelColumn : String := "labelStata"

/-- The type of a row. -/
def rowType (row : Row) : String := joinStructure (strip (row.text "type"))

/-- The variable name of a row. -/
def rowName (row : Row) : String := lower (without (· == '.') (strip (row.text "name")))

/-- The safe label of a row in a column that may be absent. -/
def rowLabel (column : Option String) (row : Row) : String :=
  match column with
  | some c => Label.safe true (row.text c)
  | none => ""

/-- Reads a row, as yet without a place; `none` when the row is not kept. -/
def ofRow? (columns : List String) (row : Row) : Option Question :=
  let rawType := rowType row
  let tokens := words rawType
  let name := rowName row
  let label := rowLabel (labelColumn? columns) row
  let working :=
    if columns.contains workingLabelColumn then rowLabel (some workingLabelColumn) row else ""
  if name = "" ∧ tokens.head? ≠ some endRepeat then none
  else
    some {
      name, rawType, tokens, label
      workingLabel := if working = "" then label else working
      calculation := some (strip (row.text "calculation")) }

/-- The columns that are read only of a row that is kept. -/
def furtherColumns (columns : List String) : List String :=
  (labelColumn? columns).toList ++ columns.filter (· == workingLabelColumn) ++ ["calculation"]

/-- Whether the cells of a row that are looked at have texts: the type and the name, and the further
columns when the row is kept. -/
def isLegible (columns : List String) (row : Row) : Bool :=
  row.hasTexts ["type", "name"] &&
    ((ofRow? columns row).isNone || row.hasTexts (furtherColumns columns))

/-- Numbers questions from one. -/
def numbered (qs : List Question) : List Question :=
  (qs.zipIdx 1).map fun (q, n) => { q with order := (n : Nat) }

/-- The questions of a sheet, in order. -/
def load (sheet : Sheet) : Except FormError (List Question) := do
  sheet.require ["type", "name"]
  if sheet.rows.all (isLegible sheet.columns) then
    return numbered (sheet.rows.filterMap (ofRow? sheet.columns))
  else throw .numeralTooLong

/-- The warning that a sheet has no questions. -/
def emptyWarning (sheet : Sheet) : String :=
  "No usable question rows in sheet '" ++ sheet.name ++ "'"

/-- The warnings that loading a sheet gives. -/
def loadWarnings (sheet : Sheet) : List String :=
  match load sheet with
  | .ok [] => [emptyWarning sheet]
  | _ => []

end Question

end SurveyChecks
