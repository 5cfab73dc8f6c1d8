import SurveyChecks.Catalog
import SurveyChecks.Data.Comparison
import SurveyChecks.Data.Views
import SurveyChecks.Json.Reader
import SurveyChecks.Json.Writer
import SurveyChecks.Yaml.Reader
import SurveyChecks.Yaml.Writer

/-!
# Catalogs as documents

A catalog as nested data: the list of datasets, and under each dataset the names of every scored
kind. Read back, the kinds must be words of scored kinds; the rest is taken as it is, so a catalog
that was read may hold values other than texts.
-/

namespace SurveyChecks

open SurveyChecks.Text

/-- Why a document is no catalog. -/
inductive CatalogError where
  /-- A part of the document is not of the kind needed. -/
  | illTyped (fault : DataFault)
  /-- A word stands for no kind. -/
  | unknownKind (word : Data)
  /-- A word stands for a kind that is not scored. -/
  | unscoredKind (word : Data)

/-- Why a text describes no catalog. -/
inductive CatalogTextError where
  /-- The text is not JSON that can be read. -/
  | json (e : Json.ReadError)
  /-- The text is not YAML that can be read. -/
  | yaml (e : Yaml.ReadError)
  /-- What the text denotes is no catalog. -/
  | content (e : CatalogError)

namespace CatalogError

/-- The wording of an error about kinds; a word without a text has none. -/
def message? : CatalogError → Option String
  | .illTyped _ => none
  | .unknownKind w =>
    if w.hasText then some (w.shown ++ " is not a valid QuestionType") else none
  | .unscoredKind w => some (w.interpolated ++ " is not a catalog question type")

end CatalogError

namespace Catalog

/-! ## Writing -/

/-- The names of every scored kind of a dataset. -/
def kindsData {α : Type} [BEq α] (value : α → Data) (c : Catalog α) (dataset : α) : Data :=
  .record (QuestionKind.scored.map fun k => (k.word, .list ((c.names dataset k).map value)))

/-- A catalog as data, with the datasets and the names turned into values. -/
def toDataBy {α : Type} [BEq α] (value : α → Data) (c : Catalog α) : Data :=
  .record [("datasets", .list (c.datasets.map value)),
    ("variables",
      .map (OrderedMap.ofPairs (c.datasets.map fun d => (value d, kindsData value c d))))]

/-- A catalog of texts as data. -/
def toData (c : Catalog String) : Data := toDataBy .text c

/-- Whether every dataset can be the key of a map. -/
def hasKeys (c : Catalog Data) : Bool := c.datasets.all Data.isKey

/-- A catalog of values as data; its datasets must be keys. -/
def toData? (c : Catalog Data) : Except DataFault Data :=
  if c.hasKeys then .ok (toDataBy id c) else .error .notAKey

/-- An item of a catalog: the dataset, the kind and the names. -/
abbrev Item := (Data × QuestionKind) × List Data

/-- The items of a catalog of values; its datasets must be keys. -/
def items? (c : Catalog Data) : Except DataFault (List Item) :=
  if c.hasKeys then .ok c.items else .error .notAKey

/-- Whether two items are the same; `none` when the comparison has no end. -/
def itemSame? (a b : Item) : Option Bool :=
  if a.1 == b.1 then Data.same? (.list a.2) (.list b.2) else some false

/-- Whether two catalogs of values list the same items. -/
def agree (c d : Catalog Data) : Except DataFault Bool := do
  let xs ← c.items?
  let ys ← d.items?
  match Data.listsSame? itemSame? xs ys with
  | some b => return b
  | none => throw .tooDeep

/-! ## Reading -/

/-- The scored kind that a key stands for. -/
def kindOf (w : Data) : Except CatalogError QuestionKind :=
  let kind? :=
    match w.unnamed with
    | .scalar (.text s) => QuestionKind.ofWord? s
    | _ => none
  match kind? with
  | none => .error (.unknownKind w)
  | some k => if k.isScored then .ok k else .error (.unscoredKind w)

/-- One bucket of a dataset. -/
def bucketOf (dataset : Data) : Data × Data → Except CatalogError Item
  | (w, names) => do
    let k ← kindOf w
    let ns ← names.givenElements.mapError .illTyped
    return ((dataset, k), ns)

/-- The buckets of a dataset. -/
def bucketsOf : Data × Data → Except CatalogError (List Item)
  | (dataset, kinds) => do
    let entries ← kinds.entries.mapError .illTyped
    entries.mapM (bucketOf dataset)

/-- The value under a text in a map. -/
def field? (m : OrderedMap Data Data) (name : String) : Option Data := m.get? (.text name)

/-- The catalog that data describe. -/
def ofData (d : Data) : Except CatalogError (Catalog Data) := do
  let m ← d.entries.mapError .illTyped
  let found := (field? m "variables").getD .null
  let entries ←
    if found.isTruthy then found.entries.mapError .illTyped else pure []
  let buckets ← entries.mapM bucketsOf
  let datasets ← ((field? m "datasets").getD .null).givenElements.mapError .illTyped
  return ofBuckets (OrderedMap.ofPairs buckets.flatten) datasets

/-! ## Texts -/

/-- A catalog of texts as JSON. -/
def toJson (c : Catalog String) : Except DataFault String := Json.write c.toData

/-- A catalog of texts as YAML. -/
def toYaml (c : Catalog String) : Except DataFault String := Yaml.write c.toData

/-- The catalog that a JSON text describes. -/
def ofJson (s : String) : Except CatalogTextError (Catalog Data) := do
  let d ← (Json.read s).mapError .json
  (ofData d).mapError .content

/-- The catalog that a YAML text describes, whose names start with `first`. -/
def ofYaml (s : String) (first : Nat) : Except CatalogTextError (Catalog Data) := do
  let d ← (Yaml.read s first).mapError .yaml
  (ofData d).mapError .content

/-- A catalog of values in one line. -/
def shownData (c : Catalog Data) : Except DataFault String :=
  if !c.hasKeys then .error .notAKey
  else if c.datasets.all Data.hasText then .ok (c.shown Data.shown)
  else .error .numeralTooLong

end Catalog

end SurveyChecks
