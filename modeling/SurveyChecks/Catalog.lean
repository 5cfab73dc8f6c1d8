import SurveyChecks.Dataset
import SurveyChecks.OrderedMap

/-!
# Variable catalogs

A catalog lists, for each dataset and each kind of question, the names of the variables in order. It
is a map from (dataset, kind) to names together with the list of datasets, which also holds the
datasets without variables. A form has a catalog of texts; catalogs read from documents may hold
other values.
-/

namespace SurveyChecks

/-- The variables by dataset and kind. -/
structure Catalog (α : Type) where
  /-- The names under each dataset and kind. -/
  buckets : OrderedMap (α × QuestionKind) (List α)
  /-- The datasets in order. -/
  datasets : List α
  deriving Inhabited

namespace Catalog

variable {α : Type} [BEq α]

/-! ## Construction -/

/-- Adds a dataset at the end unless it is there. -/
def addDataset (ds : List α) (d : α) : List α := if ds.contains d then ds else ds ++ [d]

/-- The catalog of buckets, with the datasets given and those of the buckets after them. -/
def ofBuckets (buckets : OrderedMap (α × QuestionKind) (List α)) (datasets : List α) :
    Catalog α where
  buckets := buckets
  datasets := (buckets.map (·.1.1)).foldl addDataset datasets

/-- The catalog without buckets and datasets. -/
def empty : Catalog α := ⟨[], []⟩

/-! ## Views -/

/-- The names under a dataset and a kind. -/
def names (c : Catalog α) (dataset : α) (kind : QuestionKind) : List α :=
  (c.buckets.get? (dataset, kind)).getD []

/-- Whether the dataset has numeric variables. -/
def hasNumeric (c : Catalog α) (dataset : α) : Bool := !(c.names dataset .numeric).isEmpty

/-- Every dataset with every scored kind and the names there. -/
def items (c : Catalog α) : List ((α × QuestionKind) × List α) :=
  c.datasets.flatMap fun d => QuestionKind.scored.map fun k => ((d, k), c.names d k)

/-- The number of variables listed. -/
def size (c : Catalog α) : Nat := (c.items.map fun (_, ns) => ns.length).foldl (· + ·) 0

/-- Catalogs are the same when they list the same items. -/
def same (c d : Catalog α) : Bool := c.items == d.items

instance : BEq (Catalog α) := ⟨same⟩

/-- The catalog in one line: its datasets and the number of buckets with variables. -/
def shown (text : α → String) (c : Catalog α) : String :=
  let datasets := ", ".intercalate (c.datasets.map text)
  let filled := (c.items.filter fun (_, ns) => !ns.isEmpty).length
  s!"VariableCatalog(datasets=[{datasets}], buckets={filled})"

/-- The catalog of the images of all datasets and names. -/
def map {β : Type} (f : α → β) (c : Catalog α) : Catalog β :=
  ⟨c.buckets.map fun ((d, k), ns) => ((f d, k), ns.map f), c.datasets.map f⟩

/-! ## The catalog of questions -/

/-- The empty buckets of a dataset, one for each scored kind. -/
def emptyBuckets (dataset : String) : List ((String × QuestionKind) × List String) :=
  QuestionKind.scored.map fun k => ((dataset, k), [])

/-- Files a scored question under its dataset and kind. -/
def file (m : OrderedMap (String × QuestionKind) (List String)) (q : Question) :
    OrderedMap (String × QuestionKind) (List String) :=
  match q.kind with
  | some k =>
    if k.isScored then OrderedMap.update (fun ns => ns.getD [] ++ [q.name]) (q.dataset, k) m else m
  | none => m

/-- The catalog of questions with kinds and datasets, in ascending order. The datasets given come
first and are kept without variables. -/
def ofQuestions (qs : List Question) (datasets : List Dataset) : Catalog String :=
  let names := datasets.map (·.name)
  let empty := OrderedMap.ofPairs (names.flatMap emptyBuckets)
  ofBuckets ((Question.inOrder qs).foldl file empty) names

end Catalog

end SurveyChecks
