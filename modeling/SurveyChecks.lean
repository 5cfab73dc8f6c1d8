import SurveyChecks.Binary64.Basic
import SurveyChecks.Binary64.Parts
import SurveyChecks.Binary64.Shortest
import SurveyChecks.Binary64.Text
import SurveyChecks.Calendar
import SurveyChecks.Catalog
import SurveyChecks.Catalog.Document
import SurveyChecks.Checks.Parameters
import SurveyChecks.Checks.Script
import SurveyChecks.Checks.Settings
import SurveyChecks.CommandLine.Arguments
import SurveyChecks.CommandLine.Configuration
import SurveyChecks.CommandLine.Run
import SurveyChecks.Data.Basic
import SurveyChecks.Data.Comparison
import SurveyChecks.Data.Fault
import SurveyChecks.Data.Knot
import SurveyChecks.Data.Scalar
import SurveyChecks.Data.Scatter
import SurveyChecks.Data.Views
import SurveyChecks.Dataset
import SurveyChecks.Form.Basic
import SurveyChecks.Form.Choice
import SurveyChecks.Form.Classification
import SurveyChecks.Form.Document
import SurveyChecks.Form.Error
import SurveyChecks.Form.File
import SurveyChecks.Form.Label
import SurveyChecks.Form.Question
import SurveyChecks.Form.QuestionKind
import SurveyChecks.Form.Sheet
import SurveyChecks.Json.Reader
import SurveyChecks.Json.Writer
import SurveyChecks.Main
import SurveyChecks.Note
import SurveyChecks.OrderedMap
import SurveyChecks.PathName
import SurveyChecks.Proofs.Dataset
import SurveyChecks.Proofs.OrderedMap
import SurveyChecks.Proofs.Sorting
import SurveyChecks.Proofs.Repeat.Bracket
import SurveyChecks.Proofs.Repeat.Laminar
import SurveyChecks.Proofs.Repeat.Matching
import SurveyChecks.Proofs.Repeat.Resolution
import SurveyChecks.Repeat.Group
import SurveyChecks.Repeat.Pairing
import SurveyChecks.Report
import SurveyChecks.Text.Base64
import SurveyChecks.Text.Blank
import SurveyChecks.Text.CasedSet
import SurveyChecks.Text.CharSet
import SurveyChecks.Text.DecimalSet
import SurveyChecks.Text.Digits
import SurveyChecks.Text.Edit
import SurveyChecks.Text.Folding
import SurveyChecks.Text.LowerRuns
import SurveyChecks.Text.Lowercase
import SurveyChecks.Text.PrintableSet
import SurveyChecks.Text.Quoted
import SurveyChecks.Text.Surrogate
import SurveyChecks.Text.WordSet
import SurveyChecks.Workbook
import SurveyChecks.Workbook.Cell
import SurveyChecks.Workbook.Document
import SurveyChecks.Workbook.Fault
import SurveyChecks.Workbook.Serial
import SurveyChecks.Workbook.SheetName
import SurveyChecks.Workspace
import SurveyChecks.Yaml.Character
import SurveyChecks.Yaml.Cursor
import SurveyChecks.Yaml.Document
import SurveyChecks.Yaml.Error
import SurveyChecks.Yaml.Layout
import SurveyChecks.Yaml.Literal
import SurveyChecks.Yaml.Outline
import SurveyChecks.Yaml.Plain
import SurveyChecks.Yaml.Reader
import SurveyChecks.Yaml.Style
import SurveyChecks.Yaml.Token
import SurveyChecks.Yaml.Writer
import SurveyChecks.Proofs.Catalog
import SurveyChecks.Proofs.Form.Sheets
import SurveyChecks.Proofs.Form.Questions
import SurveyChecks.Proofs.Form.Analysis
import SurveyChecks.Proofs.Form.Partition
import SurveyChecks.Proofs.Repeat.Relabel
import SurveyChecks.Proofs.Form.Composition
import SurveyChecks.Proofs.Form.Insertion
import SurveyChecks.Proofs.Form.Choices
import SurveyChecks.Proofs.Form.Outcome
import SurveyChecks.Proofs.Text.Lines
import SurveyChecks.Proofs.Checks.Parameters
import SurveyChecks.Proofs.Checks.Lines
import SurveyChecks.Proofs.Checks.Marks
import SurveyChecks.Proofs.Checks.Mirror
import SurveyChecks.Proofs.Checks.Guards
import SurveyChecks.Proofs.Report
import SurveyChecks.Proofs.Text.Edit
import SurveyChecks.Proofs.Form.ChoiceLists
import SurveyChecks.Proofs.Form.Kinds
import SurveyChecks.Proofs.Checks.Ranges
import SurveyChecks.Proofs.Checks.Independence
import SurveyChecks.Proofs.Checks.Coverage
import SurveyChecks.Proofs.Checks.DatasetNames
import SurveyChecks.Proofs.Form.Labels
import SurveyChecks.Proofs.Checks.Labels
import SurveyChecks.Proofs.Data
import SurveyChecks.Proofs.Json.Writer
import SurveyChecks.Proofs.Yaml.Outline
import SurveyChecks.Proofs.Catalog.RoundTrip
import SurveyChecks.Proofs.Form.Sequence
import SurveyChecks.Proofs.Text.Words
import SurveyChecks.Proofs.Text.Lowercase
import SurveyChecks.Proofs.Form.Types
import SurveyChecks.Proofs.Checks.Types
import SurveyChecks.Proofs.Workspace
import SurveyChecks.Proofs.CommandLine.Arguments
import SurveyChecks.Proofs.CommandLine.Run
import SurveyChecks.Proofs.Form.Filing
import SurveyChecks.Proofs.Form.Grid
import SurveyChecks.Proofs.Form.Depth
import SurveyChecks.Proofs.Form.Inventory
import SurveyChecks.Proofs.Text.Trimming
import SurveyChecks.Proofs.Text.Numerals
import SurveyChecks.Proofs.Binary64
import SurveyChecks.Proofs.Form.Names
import SurveyChecks.Proofs.Form.Reloading
import SurveyChecks.Proofs.Form.Codes
import SurveyChecks.Proofs.CommandLine.Configuration
import SurveyChecks.Proofs.Checks.Blocks
import SurveyChecks.Proofs.Form.References
import SurveyChecks.Proofs.Catalog.Reading
import SurveyChecks.Proofs.CommandLine.Forms
import SurveyChecks.Proofs.CommandLine.Ending
import SurveyChecks.Proofs.Form.Classification
import SurveyChecks.Proofs.Form.SafeText
import SurveyChecks.Proofs.Form.SafeLabels
