import SurveyChecks.Catalog.Document
import SurveyChecks.Form.Basic

/-!
# Forms as documents

A form as nested data, for inspection, and its texts in JSON and YAML.
-/

namespace SurveyChecks

/-- A question as data. -/
def Question.toData (q : Question) : Data :=
  .record [
    ("name", .text q.name),
    ("type", .text q.rawType),
    ("question_type", (q.kind.map fun k => Data.text k.word).getD .null),
    ("label", .text q.label),
    ("label_stata", .text q.workingLabel),
    ("calculation", (q.calculation.map Data.text).getD .null),
    ("order", .int q.order),
    ("repeat_group", .int? q.group),
    ("dataset", .text q.dataset)]

/-- A choice of a list as data. -/
def Choice.toData (c : Choice) : Data :=
  .record [("code", .int c.code), ("label", .text c.label), ("order", .int c.order)]

/-- A repeat group as data. -/
def RepeatGroup.toData (g : RepeatGroup) : Data :=
  .record [
    ("index", .int g.index),
    ("begin_order", .int g.first),
    ("end_order", .int g.last),
    ("dataset_name", .text g.dataset),
    ("first_variable_name", .text g.opener)]

/-- A dataset as data. -/
def Dataset.toData (d : Dataset) : Data :=
  .record
    [("name", .text d.name), ("reference", .text d.reference), ("repeat_group", .int? d.group)]

namespace Form

/-- A form as data. -/
def toData (f : Form) : Data :=
  .record [
    ("name", .text f.name),
    ("questions", .list (f.questions.map Question.toData)),
    ("choice_lists", .record (f.choiceLists.map fun (l, cs) => (l, .list (cs.map Choice.toData)))),
    ("repeat_groups", .list (f.groups.map RepeatGroup.toData)),
    ("datasets", .list (f.datasets.map Dataset.toData)),
    ("catalog", f.catalog.toData),
    ("metadata", .record f.metadata)]

/-- A form as JSON. -/
def toJson (f : Form) : Except DataFault String := Json.write f.toData

/-- A form as YAML. -/
def toYaml (f : Form) : Except DataFault String := Yaml.write f.toData

end Form

end SurveyChecks
