import SurveyChecks.Repeat.Group

/-!
# Datasets

The tables that hold the answers: the survey dataset and one dataset for each repeat group. Groups
of one name share a dataset.
-/

namespace SurveyChecks

open SurveyChecks.Text

/-- A table of answers. -/
structure Dataset where
  /-- The name. -/
  name : String
  /-- The name of the file that scripts load. -/
  reference : String
  /-- The index of the repeat group that the dataset comes from. -/
  group : Option Int := none
  deriving DecidableEq, Repr, Inhabited

namespace Dataset

/-! ## The dataset of a question -/

/-- The name of the dataset of a question; `none` when its group does not exist. Of several groups
of one index the last counts. -/
def nameFor? (gs : List RepeatGroup) (q : Question) : Option String :=
  match q.group with
  | none => some surveyDataset
  | some i => (gs.reverse.find? (·.index == i)).map (·.dataset)

/-- Questions with their datasets, up to the first whose group does not exist. -/
def assignUntilUnknown (gs : List RepeatGroup) : List Question → List Question
  | [] => []
  | q :: qs =>
    match nameFor? gs q with
    | some d => { q with dataset := d } :: assignUntilUnknown gs qs
    | none => q :: qs

/-- The first group of a question that does not exist. -/
def unknownGroup? (gs : List RepeatGroup) (qs : List Question) : Option Int :=
  qs.findSome? fun q => if (nameFor? gs q).isNone then q.group else none

/-- Questions with their datasets. -/
def assign (gs : List RepeatGroup) (qs : List Question) : Except FormError (List Question) :=
  match unknownGroup? gs qs with
  | some i => .error (.unknownGroup i)
  | none => .ok (assignUntilUnknown gs qs)

/-! ## The datasets of a form -/

/-- The survey dataset. -/
def survey : Dataset := { name := surveyDataset, reference := surveyDataset }

/-- The dataset of a group. -/
def ofGroup (g : RepeatGroup) : Dataset := ⟨g.dataset, g.dataset, some g.index⟩

/-- The groups whose dataset name is new, given the names `seen` before them. -/
def newNamed (seen : List String) : List RepeatGroup → List RepeatGroup
  | [] => []
  | g :: gs =>
    if seen.contains g.dataset then newNamed seen gs else g :: newNamed (g.dataset :: seen) gs

/-- The groups whose dataset name was used before, given the names `seen` before them. -/
def reusing (seen : List String) : List RepeatGroup → List RepeatGroup
  | [] => []
  | g :: gs =>
    if seen.contains g.dataset then g :: reusing seen gs else reusing (g.dataset :: seen) gs

/-- The datasets of a form: the survey first, then one for each new name among the groups. -/
def build (gs : List RepeatGroup) : List Dataset :=
  survey :: (newNamed [surveyDataset] gs).map ofGroup

/-- The notes about groups that reuse a dataset name. -/
def buildNotes (gs : List RepeatGroup) : List Note :=
  (reusing [surveyDataset] gs).map fun g =>
    ⟨.warning, s!"Repeat group {g.index} reuses dataset name {quoted g.dataset}"⟩

end Dataset

end SurveyChecks
