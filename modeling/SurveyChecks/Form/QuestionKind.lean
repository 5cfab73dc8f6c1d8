/-!
# Kinds of questions

What a question asks for, as far as checks are concerned. Six kinds are scored, that is, have checks
of their own.
-/

namespace SurveyChecks

/-- The kind of a question. -/
inductive QuestionKind where
  /-- A free text. -/
  | string
  /-- One option of a choice list. -/
  | selectOne
  /-- Any number of options of a choice list. -/
  | selectMultiple
  /-- A number. -/
  | numeric
  /-- A date. -/
  | date
  /-- A time stamp. -/
  | datetime
  /-- A place. -/
  | geopoint
  /-- Nothing that is checked. -/
  | notRelevant
  deriving DecidableEq, Repr, Inhabited

namespace QuestionKind

/-- The word for a kind. -/
def word : QuestionKind → String
  | .string => "string"
  | .selectOne => "select_one"
  | .selectMultiple => "select_multiple"
  | .numeric => "numeric"
  | .date => "date"
  | .datetime => "datetime"
  | .geopoint => "geopoint"
  | .notRelevant => "not_relevant"

/-- All kinds. -/
def all : List QuestionKind :=
  [.string, .selectOne, .selectMultiple, .numeric, .date, .datetime, .geopoint, .notRelevant]

/-- The kinds that have checks, in the order in which catalogs list them. -/
def scored : List QuestionKind :=
  [.string, .selectOne, .selectMultiple, .numeric, .date, .datetime]

/-- Whether a kind has checks. -/
def isScored (k : QuestionKind) : Bool := scored.contains k

/-- The kind that a word stands for. -/
def ofWord? (w : String) : Option QuestionKind := all.find? (·.word == w)

theorem mem_all (k : QuestionKind) : k ∈ all := by cases k <;> simp [all]

theorem ofWord?_word (k : QuestionKind) : ofWord? k.word = some k := by cases k <;> decide

end QuestionKind

end SurveyChecks
