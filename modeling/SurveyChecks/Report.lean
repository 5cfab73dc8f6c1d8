import SurveyChecks.Form.Basic

/-!
# Reports

An inventory of a form: how many questions of which kinds and datasets, how deep its repeat groups
are nested, and what may be unintended: names used twice, choice lists that are missing or unused,
and datasets without questions.
-/

namespace SurveyChecks

/-- An inventory of a form. -/
structure Report where
  /-- The name of the form. -/
  formName : String
  /-- The number of questions. -/
  questionCount : Nat
  /-- The number of choices. -/
  choiceCount : Nat
  /-- The number of choice lists. -/
  choiceListCount : Nat
  /-- The number of repeat groups. -/
  groupCount : Nat
  /-- The questions of each kind, by the word of the kind, in the order of first occurrence. -/
  byKind : OrderedMap String Nat
  /-- The questions of each dataset, in the order of first occurrence. -/
  byDataset : OrderedMap String Nat
  /-- The number of variables in the catalog. -/
  variableCount : Nat
  /-- The greatest number of repeat groups around one another. -/
  depth : Nat
  /-- Names that more than one question has, ascending. -/
  duplicateNames : List String
  /-- Choice lists that are referred to and have no choices, ascending. -/
  missingLists : List String
  /-- Choice lists that no question refers to, ascending. -/
  unusedLists : List String
  /-- What may be unintended, in words. -/
  warnings : List String
  deriving DecidableEq, Repr

namespace Report

/-! ## Parts -/

/-- Texts in ascending order. -/
def ascending (ss : List String) : List String := ss.mergeSort fun a b => decide (a ≤ b)

/-- The word for the kind of a question; a kind not yet determined counts as irrelevant. -/
def kindWord (q : Question) : String := (q.kind.getD .notRelevant).word

/-- The number of groups around a group, itself included. -/
def depthOf (gs : List RepeatGroup) (g : RepeatGroup) : Nat :=
  (gs.filter fun o => decide (o.first ≤ g.first) && decide (g.last ≤ o.last)).length

/-- The greatest depth of a group. -/
def maxDepth (gs : List RepeatGroup) : Nat := ((gs.map (depthOf gs)).max?).getD 0

/-- The names that occur more than once, apart from the empty one. -/
def duplicates (names : List String) : List String :=
  ((OrderedMap.tally (names.filter (· != ""))).filter fun (_, n) => decide (1 < n)).map (·.1)

/-- The choice lists that questions refer to. -/
def referredLists (qs : List Question) : List String :=
  ((qs.filterMap Question.choiceList?).filter (· != "")).eraseDups

/-! ## Warnings -/

/-- A warning that lists names, unless there are none. -/
def listing (heading : String) (names : List String) : List String :=
  if names.isEmpty then [] else [heading ++ ": " ++ ", ".intercalate names]

/-- The warnings about datasets without questions. -/
def emptyDatasets (ds : List Dataset) (byDataset : OrderedMap String Nat) : List String :=
  (ds.filter fun d => (byDataset.get? d.name).getD 0 == 0).map fun d =>
    "Dataset " ++ d.name ++ " has no questions"

/-! ## The report -/

/-- The inventory of a form. -/
def ofForm (f : Form) : Report :=
  let referred := referredLists f.questions
  let present := f.choiceLists.keys
  let byDataset := OrderedMap.tally (f.questions.map (·.dataset))
  let duplicateNames := ascending (duplicates (f.questions.map (·.name)))
  let missingLists := ascending (referred.filter fun l => !present.contains l)
  let unusedLists := ascending (present.filter fun l => !referred.contains l)
  { formName := f.name
    questionCount := f.questions.length
    choiceCount := f.choices.length
    choiceListCount := f.choiceLists.length
    groupCount := f.groups.length
    byKind := OrderedMap.tally (f.questions.map kindWord)
    byDataset
    variableCount := f.catalog.size
    depth := maxDepth f.groups
    duplicateNames, missingLists, unusedLists
    warnings :=
      ((if f.questions.isEmpty then ["Instrument has no questions"] else []) ++
        listing "Duplicate variable names" duplicateNames ++
        listing "Choice lists without value-coded entries" missingLists ++
        listing "Unused choice lists" unusedLists ++
        emptyDatasets f.datasets byDataset).eraseDups }

/-- The notes that a report gives rise to. -/
def notes (r : Report) : List Note := r.warnings.map fun w => ⟨.warning, w⟩

end Report

end SurveyChecks
