import SurveyChecks.Form.Question

/-!
# Classification

The kind of a question follows from an ordered table of rules, of which the first that applies
decides. Rules that make a question irrelevant come first, then the types with a kind of their own;
any other type asks for a number, and a question without a type is irrelevant.
-/

namespace SurveyChecks

open SurveyChecks.Text

/-- A rule of classification. -/
structure KindRule where
  /-- Whether the rule applies to a question. -/
  applies : Question → Bool
  /-- The kind that it gives. -/
  kind : QuestionKind

namespace Question

/-- Types of rows that ask nothing. -/
def structuralTokens : List String :=
  ["begin_group", "end_group", "begin_repeat", "end_repeat", "deviceid", "image"]

/-- Whether the row asks nothing: by its first word, or because it is an audit of texts. -/
def isStructural (q : Question) : Bool :=
  structuralTokens.contains q.base || " ".intercalate q.tokens == "text audit"

/-- Whether the row only shows a text. -/
def isNote (q : Question) : Bool := strip q.rawType == "note"

/-- Whether the value comes from data loaded beforehand. -/
def isPreloaded (q : Question) : Bool :=
  "pulldata".toList.isPrefixOf (strip (q.calculation.getD "")).toList

/-- The rule that the first word is one of `tokens`. -/
def baseRule (tokens : List String) (kind : QuestionKind) : KindRule :=
  ⟨fun q => tokens.contains q.base, kind⟩

/-- Rules that make a question irrelevant whatever else holds. -/
def overrideRules : List KindRule :=
  [⟨isStructural, .notRelevant⟩, ⟨isNote, .notRelevant⟩, ⟨isPreloaded, .notRelevant⟩]

/-- Rules for the types that have a kind of their own. -/
def specificRules : List KindRule :=
  [baseRule ["text"] .string, baseRule ["select_one"] .selectOne,
    baseRule ["select_multiple"] .selectMultiple, baseRule ["date", "today"] .date,
    baseRule ["start", "end", "submissiondate"] .datetime, baseRule ["geopoint"] .geopoint]

/-- The rule for every other type. -/
def otherRules : List KindRule := [⟨fun q => q.base != "", .numeric⟩]

/-- The table of rules. -/
def kindRules : List KindRule := overrideRules ++ specificRules ++ otherRules

/-- The kind given by the first rule that applies; irrelevant when none does. -/
def kindBy (rules : List KindRule) (q : Question) : QuestionKind :=
  ((rules.find? (·.applies q)).map (·.kind)).getD .notRelevant

/-- The kind of a question. -/
def classify (q : Question) : QuestionKind := kindBy kindRules q

/-- Questions with their kinds. -/
def classified (qs : List Question) : List Question := qs.map fun q => { q with kind := q.classify }

end Question

end SurveyChecks
