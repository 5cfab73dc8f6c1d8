import SurveyChecks.Checks.Settings
import SurveyChecks.Dataset

/-!
# Parameters of a script

The parameters as texts, ready to stand in a script. Settings have parameters unless a value is of a
kind that cannot stand at its place. A value that is only interpolated may be of any kind.
-/

namespace SurveyChecks

open SurveyChecks.Text

/-- The parameters of a check script. -/
structure Parameters where
  /-- The path of the survey form. -/
  instrument : String
  /-- The path of the script. -/
  output : String
  /-- The directory of the datasets. -/
  workingDir : String
  /-- The directory for histograms; there are none without it. -/
  graphicsDir : Option String := none
  /-- The variable that identifies the enumerator. -/
  enumeratorId : String := ""
  /-- The variables that together identify a submission. -/
  uniqueIds : List String := []
  /-- The variable of the respondent's name. -/
  respondentName : Option String := none
  /-- The condition that selects completed interviews. -/
  successCondition : Option String := none
  /-- The path of a table of corrections. -/
  correctionsFile : Option String := none
  /-- The variable of the enumerator's comments. -/
  enumeratorComments : Option String := none
  deriving DecidableEq, Repr

namespace Settings

/-- A value that must be a path. -/
def pathText : Data → Except DataFault String
  | .scalar (.text s) => .ok s
  | _ => .error .notAPath

/-- A value that is put beside other texts. -/
def joinableText : Data → Except DataFault String
  | .scalar (.text s) => .ok s
  | _ => .error .notJoinable

/-- A value that may be left out. -/
def optional (read : Data → Except DataFault String) (d : Data) :
    Except DataFault (Option String) :=
  if d.isTruthy then (read d).map some else .ok none

/-- A value that is only interpolated. -/
def interpolatedText (d : Data) : Except DataFault String :=
  if d.hasText then .ok d.interpolated else .error .numeralTooLong

/-- The fault of taking the first of the variables that identify a submission. -/
def firstIdFault? (d : Data) : Option DataFault :=
  match d.opened with
  | .map _ => some .noFirstItem
  | .set _ => some .unordered
  | _ => none

/-- The variables that identify interviews: of the enumerator, of the submission, of the
respondent. -/
def identifiers (s : Settings) : Except DataFault (String × List String × Option String) := do
  let ids ← (s.value .uniqueIds).elements
  let enumerator ← joinableText (s.value .enumeratorId)
  let ids ← ids.mapM joinableText
  let respondent ← optional joinableText (s.value .respondentName)
  return (enumerator, ids, respondent)

/-- The table of corrections, for which there must be a first variable that identifies. -/
def corrections (s : Settings) : Except DataFault (Option String) :=
  let file := s.value .correctionsFile
  if file.isTruthy then
    match firstIdFault? (s.value .uniqueIds) with
    | some f => .error f
    | none => (changeableText file).map some
  else .ok none

/-- The parameters together with those that only the survey dataset needs. -/
def withSurvey (s : Settings) (p : Parameters) : Except DataFault Parameters := do
  let (enumeratorId, uniqueIds, respondentName) ← s.identifiers
  let successCondition ← optional interpolatedText (s.value .successCondition)
  let correctionsFile ← s.corrections
  let enumeratorComments ← optional interpolatedText (s.value .enumeratorComments)
  return {
    p with
    enumeratorId, uniqueIds, respondentName, successCondition, correctionsFile
    enumeratorComments }

/-- The parameters that settings stand for. What only the survey dataset needs is looked at when the
form has one. -/
def parameters (s : Settings) (hasSurvey : Bool) : Except DataFault Parameters := do
  let output ← pathText (s.value .output)
  let instrument ← interpolatedText (s.value .instrument)
  let workingDir ← changeableText (s.value .workingDir)
  let graphicsDir ← optional changeableText (s.value .graphicsDir)
  let p : Parameters := { instrument, output, workingDir, graphicsDir }
  if hasSurvey then s.withSurvey p else return p

end Settings

end SurveyChecks
