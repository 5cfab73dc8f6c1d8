import SurveyChecks.Catalog
import SurveyChecks.Form.Choice
import SurveyChecks.Form.Classification

/-!
# Forms

An analysed survey form: its questions with kinds, groups and datasets, its choices by list, its
repeat groups and datasets, and the catalog of its variables.
-/

namespace SurveyChecks

/-- An analysed survey form. -/
structure Form where
  /-- The name of the form. -/
  name : String
  /-- The questions in order. -/
  questions : List Question := []
  /-- The choices in order. -/
  choices : List Choice := []
  /-- The choices by list, codes without repetition. -/
  choiceLists : OrderedMap String (List Choice) := []
  /-- The repeat groups in the order of their opening rows. -/
  groups : List RepeatGroup := []
  /-- The datasets, the survey first. -/
  datasets : List Dataset := []
  /-- The variables by dataset and kind. -/
  catalog : Catalog String := Catalog.empty
  /-- Facts about the form, such as where it was read from. -/
  metadata : OrderedMap String Data := []
  deriving Inhabited

namespace Form

/-! ## Analysis -/

/-- The questions of a survey sheet with their kinds. -/
def loadQuestions (survey : Sheet) : Except FormError (List Question) :=
  (Question.load survey).map Question.classified

/-- Analyses a survey sheet and a choices sheet. -/
def parse (survey choices : Sheet) (name : String) : Except FormError Form := do
  let choices ← Choice.load choices
  let questions ← loadQuestions survey
  let groups ← RepeatGroup.resolve questions
  let questions ← Dataset.assign groups (RepeatGroup.assign groups questions)
  let datasets := Dataset.build groups
  return {
    name, questions, choices, groups, datasets
    choiceLists := Choice.lists choices
    catalog := Catalog.ofQuestions questions datasets }

/-- The note that a form was analysed. -/
def parsedNote (f : Form) : Note :=
  ⟨.info, s!"Parsed {f.name}: {f.questions.length} questions, {f.choices.length} choices, " ++
    s!"{f.groups.length} repeat groups"⟩

/-- The notes that an analysis makes, up to the step that fails. -/
def parseNotes (survey choices : Sheet) (name : String) : List Note :=
  Choice.loadNotes choices ++
    match Choice.load choices, loadQuestions survey with
    | .ok _, .ok questions =>
      RepeatGroup.resolveNotes questions ++
        match parse survey choices name with
        | .ok f => Dataset.buildNotes f.groups ++ [f.parsedNote]
        | .error _ => []
    | _, _ => []

/-- The warnings that an analysis gives. -/
def parseWarnings (survey choices : Sheet) : List String :=
  match Choice.load choices with
  | .ok _ => Question.loadWarnings survey
  | .error _ => []

/-! ## Look-up -/

/-- The first question of a name. -/
def question? (f : Form) (name : String) : Option Question := f.questions.find? (·.name == name)

/-- The dataset of a name. -/
def dataset? (f : Form) (name : String) : Option Dataset := f.datasets.find? (·.name == name)

/-- The choices of a list, none for a list that does not exist. -/
def choiceList (f : Form) (name : String) : List Choice := (f.choiceLists.get? name).getD []

end Form

end SurveyChecks
