import SurveyChecks.Form.Basic
import SurveyChecks.Workspace

/-!
# Forms in files

A form is kept in a workbook, on the sheets named survey and choices. It is named after its file
unless a name is given, and remembers where it was read from.
-/

namespace SurveyChecks.Form

/-- The sheet of the questions. -/
def surveySheet : String := "survey"

/-- The sheet of the choices. -/
def choicesSheet : String := "choices"

/-- The sheets of a form. -/
def sheetNames : List String := [surveySheet, choicesSheet]

/-- A sheet among those that were read. -/
def sheetNamed (sheets : OrderedMap String Sheet) (name : String) : Sheet :=
  (sheets.get? name).getD ⟨name, [], []⟩

/-- The name of a form: the one given, or that of its file. -/
def nameFor (path : String) (name : Option String) : String := name.getD (PathName.stem path)

/-- The form in the file at a path. -/
def ofFile (w : Workspace) (path : String) (name : Option String) : Except FormError Form := do
  let sheets ← w.readSheets path sheetNames
  let f ← parse (sheetNamed sheets surveySheet) (sheetNamed sheets choicesSheet)
    (nameFor path name)
  return { f with metadata := f.metadata.insert "source" (.text path) }

/-- The notes that reading a form makes. -/
def fileNotes (w : Workspace) (path : String) (name : Option String) : List Note :=
  w.readNotes path sheetNames ++
    match w.readSheets path sheetNames with
    | .ok sheets =>
      parseNotes (sheetNamed sheets surveySheet) (sheetNamed sheets choicesSheet)
        (nameFor path name)
    | .error _ => []

/-- The warnings that reading a form gives. -/
def fileWarnings (w : Workspace) (path : String) : List String :=
  match w.readSheets path sheetNames with
  | .ok sheets => parseWarnings (sheetNamed sheets surveySheet) (sheetNamed sheets choicesSheet)
  | .error _ => []

end SurveyChecks.Form
