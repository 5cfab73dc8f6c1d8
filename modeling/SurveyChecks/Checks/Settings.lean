import SurveyChecks.Data.Views
import SurveyChecks.Text.Blank
import SurveyChecks.Text.Edit
import SurveyChecks.Text.Quoted

/-!
# Settings

The values of the ten parameters of a check script as they were given, which may be of any kind.
Keys may be spelled with hyphens; of several values for a parameter the last counts. Four parameters
are required.
-/

namespace SurveyChecks

open SurveyChecks.Text

/-- A parameter of a check script. -/
inductive Parameter where
  /-- The path of the survey form. -/
  | instrument
  /-- The path of the script to write. -/
  | output
  /-- The variable that identifies the enumerator. -/
  | enumeratorId
  /-- The variables that together identify a submission. -/
  | uniqueIds
  /-- The directory of the datasets. -/
  | workingDir
  /-- The condition that selects completed interviews. -/
  | successCondition
  /-- The variable of the respondent's name. -/
  | respondentName
  /-- The path of a table of corrections. -/
  | correctionsFile
  /-- The variable of the enumerator's comments. -/
  | enumeratorComments
  /-- The directory for histograms. -/
  | graphicsDir
  deriving DecidableEq, Repr

namespace Parameter

/-- All parameters, in the order of their declaration. -/
def all : List Parameter :=
  [.instrument, .output, .enumeratorId, .uniqueIds, .workingDir, .successCondition,
    .respondentName, .correctionsFile, .enumeratorComments, .graphicsDir]

/-- The key of a parameter. -/
def key : Parameter → String
  | .instrument => "instrument"
  | .output => "output"
  | .enumeratorId => "enumerator_id"
  | .uniqueIds => "unique_ids"
  | .workingDir => "working_dir"
  | .successCondition => "success_condition"
  | .respondentName => "respondent_name"
  | .correctionsFile => "corrections_file"
  | .enumeratorComments => "enumerator_comments"
  | .graphicsDir => "graphics_dir"

/-- The parameters without which there is no script. -/
def required : List Parameter := [.instrument, .output, .enumeratorId, .uniqueIds]

/-- The value of a parameter that is not given. -/
def initial : Parameter → Data
  | .uniqueIds => .list []
  | .workingDir => .text "."
  | .correctionsFile | .graphicsDir => .null
  | _ => .text ""

/-- The parameter of a key. -/
def ofKey? (k : String) : Option Parameter := all.find? (·.key == k)

theorem mem_all (p : Parameter) : p ∈ all := by cases p <;> simp [all]

theorem ofKey?_key (p : Parameter) : ofKey? p.key = some p := by cases p <;> decide

end Parameter

/-- Why settings are refused. -/
inductive SettingsError where
  /-- The settings or a key of them are not of the kind needed. -/
  | illTyped (fault : DataFault)
  /-- A key is the key of no parameter. -/
  | unknown (key : String)
  /-- Required parameters are not given. -/
  | missing (keys : List String)
  deriving DecidableEq, Repr

namespace SettingsError

/-- The wording of an error about parameters. -/
def message? : SettingsError → Option String
  | .illTyped _ => none
  | .unknown k => some ("Unknown HFC parameter: " ++ k)
  | .missing ks => some ("Missing required HFC parameters: " ++ quotedList ks)

end SettingsError

/-- A value for every parameter. -/
structure Settings where
  /-- The value of a parameter. -/
  value : Parameter → Data

namespace Settings

/-! ## Keys -/

/-- The key with underscores for hyphens. -/
def normalKey (k : String) : String := replaceChar '-' '_' k

/-- The fault of changing a scalar that is no text as if it were one. -/
def scalarFault : Scalar → DataFault
  | .date _ | .time _ | .moment _ | .bytes _ => .notReplaceable
  | _ => .notAText

/-- A value as a text that is to be changed. -/
def changeableText (d : Data) : Except DataFault String :=
  match d.opened with
  | .scalar (.text s) => .ok s
  | .scalar s => .error (scalarFault s)
  | _ => .error .notAText

/-- The text of a key with underscores for hyphens. -/
def keyText (k : Data) : Except DataFault String := (changeableText k).map normalKey

/-- An entry with the parameter of its key. -/
def assignment : Data × Data → Except SettingsError (Parameter × Data)
  | (k, v) => do
    let key ← (keyText k).mapError .illTyped
    match Parameter.ofKey? key with
    | some p => return (p, v)
    | none => throw (.unknown key)

/-! ## Values -/

/-- The last value assigned to a parameter. -/
def lastFor? (p : Parameter) (assignments : List (Parameter × Data)) : Option Data :=
  (assignments.reverse.find? (·.1 == p)).map (·.2)

/-- A text of several variables as the list of its words. -/
def splitIds (p : Parameter) (d : Data) : Data :=
  match p, d with
  | .uniqueIds, .scalar (.text s) => .texts (words s)
  | _, d => d

/-- The settings that assignments give. -/
def ofAssignments (assignments : List (Parameter × Data)) : Settings :=
  ⟨fun p => splitIds p ((lastFor? p assignments).getD p.initial)⟩

/-- The required parameters that count as not given. -/
def missing (s : Settings) : List Parameter :=
  Parameter.required.filter fun p => !(s.value p).isTruthy

/-- The settings of the entries of a map. -/
def ofEntries (entries : List (Data × Data)) : Except SettingsError Settings := do
  let assignments ← entries.mapM assignment
  let s := ofAssignments assignments
  if s.missing.isEmpty then return s else throw (.missing (s.missing.map Parameter.key))

/-- The settings that data describe. -/
def ofData (d : Data) : Except SettingsError Settings := do
  let entries ← d.entries.mapError .illTyped
  ofEntries entries

/-- The settings that the content of a file describes; one that counts as not given describes none.
-/
def ofContent (d : Data) : Except SettingsError Settings :=
  if d.isTruthy then ofData d else ofEntries []

end Settings

end SurveyChecks
