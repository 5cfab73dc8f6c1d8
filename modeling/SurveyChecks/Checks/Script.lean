import SurveyChecks.Checks.Parameters
import SurveyChecks.Form.Basic
import SurveyChecks.PathName

/-!
# Check scripts

The script of high-frequency checks for a form: a preamble, then a part for each dataset that loads
it and checks its variables kind by kind, as the catalog lists them, then an end. The part of the
survey dataset also filters, corrects and looks for duplicates.
-/

namespace SurveyChecks.Script

open SurveyChecks.Text

/-! ## Pieces -/

/-- A text between double quotes, without those inside it. -/
def inQuotes (s : String) : String := "\"" ++ without (· == '"') s ++ "\""

/-- Texts with spaces between them. -/
def spaced (ss : List String) : String := " ".intercalate ss

/-- Lines indented by four. -/
def indented (ls : List String) : List String := ls.map ("    " ++ ·)

/-- A line that opens a block, the block, and the line that closes it. -/
def block (heading : String) (body : List String) : List String :=
  [heading ++ " \x7b"] ++ indented body ++ ["\x7d"]

/-- A loop over variables, kept in the list `list`, that skips those that do not exist. -/
def loop (list : String) (names : List String) (body : List String) : List String :=
  ["local " ++ list ++ " \"" ++ spaced names ++ "\""] ++
    block ("foreach var of local " ++ list)
      (["capture confirm variable `var'", "if _rc continue"] ++ body)

/-- The options of every listing. -/
def listOptions : String := "abbreviate(32) noobs"

/-- A line that lists the rows satisfying a condition, with a variable beside the identifiers. -/
def listing (ids name condition : String) : String :=
  "list " ++ ids ++ " " ++ name ++ " if " ++ condition ++ ", " ++ listOptions

/-- A section with a heading, left out when it has no names. -/
def sectionOf (heading : String) (names : List String) (body : List String → List String) :
    List String :=
  if names.isEmpty then [] else ["", "* " ++ heading] ++ body names

/-- The variables that identify a row of a dataset. -/
def identifiers (d : Dataset) (p : Parameters) : String :=
  if d.name = surveyDataset then
    spaced ([p.enumeratorId] ++ p.uniqueIds ++ p.respondentName.toList)
  else "parent_key key"

/-! ## The survey dataset -/

/-- The line that keeps completed interviews. -/
def successFilter (p : Parameters) : List String :=
  p.successCondition.toList.map ("keep if " ++ ·)

/-- The loop that reads the corrections into numbered lists. -/
def readCorrections : List String :=
  block "forvalues i = 1/`n_corrections'"
    ["local corr_id`i' = id[`i']", "local corr_var`i' = variable[`i']",
      "local corr_val`i' = value[`i']"]

/-- The condition that a row is the one to correct. -/
def correctedRow (key : String) : String := key ++ " == \"`corr_id`i''\""

/-- The loop that applies the corrections, texts between quotes and numbers without. -/
def applyCorrections (key : String) : List String :=
  block "forvalues i = 1/`n_corrections'"
    (["capture confirm string variable `corr_var`i''"] ++
      block "if !_rc"
        ["replace `corr_var`i'' = \"`corr_val`i''\" if " ++ correctedRow key] ++
      block "else" ["replace `corr_var`i'' = `corr_val`i'' if " ++ correctedRow key])

/-- The section that applies a table of corrections. -/
def corrections (p : Parameters) : List String :=
  match p.correctionsFile with
  | none => []
  | some file =>
    ["", "* Corrections", "preserve",
      "import delimited using " ++ inQuotes file ++ ", clear varnames(1) stringcols(_all)",
      "local n_corrections = _N"] ++
      readCorrections ++ ["restore"] ++ applyCorrections (p.uniqueIds.head?.getD "")

/-- The section that lists submissions with the same identifiers. -/
def duplicateIds (p : Parameters) : List String :=
  let ids := spaced p.uniqueIds
  ["", "* Duplicate unique ids", "duplicates tag " ++ ids ++ ", generate(_hfc_dup)",
    "list " ++ p.enumeratorId ++ " " ++ ids ++ " if _hfc_dup > 0, " ++ listOptions,
    "drop _hfc_dup"]

/-- What is done with the survey dataset before its variables are checked. -/
def surveySetup (p : Parameters) : List String :=
  successFilter p ++ corrections p ++ duplicateIds p

/-- The section that lists the enumerators' comments. -/
def comments (ids : String) (p : Parameters) : List String :=
  match p.enumeratorComments with
  | none => []
  | some v =>
    ["", "* Enumerator comments", "capture confirm variable " ++ v] ++
      block "if !_rc" [listing ids v ("!missing(" ++ v ++ ")")]

/-! ## Sections by kind -/

/-- The codes of the list that the question of a name refers to. -/
def codesFor (f : Form) (name : String) : List String :=
  let list := ((f.question? name).bind Question.choiceList?).getD ""
  (f.choiceList list).map fun c => toString c.code

/-- The check of a select-one variable: its values against the codes of its list, or a tabulation
when the list has none. -/
def selectOneCheck (f : Form) (ids name : String) : List String :=
  let codes := codesFor f name
  let outside := "!inlist(" ++ name ++ ", " ++ ", ".intercalate codes ++ ")"
  ["capture confirm variable " ++ name] ++
    block "if !_rc"
      [if codes.isEmpty then "tab " ++ name ++ ", missing"
        else listing ids name (outside ++ " & !missing(" ++ name ++ ")")]

/-- The histogram of a numeric variable. -/
def histogram (d : Dataset) (p : Parameters) : List String :=
  match p.graphicsDir with
  | none => []
  | some dir =>
    ["histogram `var', frequency",
      "graph export " ++ inQuotes (dir ++ "/" ++ d.reference ++ "_`var'.png") ++ ", replace"]

/-- The check of a numeric variable for values far from the mean. -/
def numericCheck (d : Dataset) (p : Parameters) (ids : String) : List String :=
  ["quietly summarize `var'"] ++
    block "if r(N) > 1"
      [listing ids "`var'" "abs(`var' - r(mean)) > 3 * r(sd) & !missing(`var')"] ++
    histogram d p

/-- The sections of a dataset, one for each kind of which it has variables. -/
def kindSections (f : Form) (d : Dataset) (p : Parameters) : List String :=
  let ids := identifiers d p
  let names := f.catalog.names d.name
  sectionOf "Text responses" (names .string)
      (fun ns => loop "string_vars" ns [listing ids "`var'" "!missing(`var')"]) ++
    sectionOf "Select-one values outside the choice list" (names .selectOne)
      (fun ns => ns.flatMap (selectOneCheck f ids)) ++
    sectionOf "Select-multiple tabulations" (names .selectMultiple)
      (fun ns => loop "multiple_vars" ns ["tab `var', missing"]) ++
    sectionOf "Dates in the future" (names .date)
      (fun ns => loop "date_vars" ns
        [listing ids "`var'" "`var' > today() & !missing(`var')"]) ++
    sectionOf "Timestamps in the future" (names .datetime)
      (fun ns =>
        ["local now = clock(\"`c(current_date)' `c(current_time)'\", \"DMYhms\")"] ++
          loop "datetime_vars" ns [listing ids "`var'" "`var' > `now' & !missing(`var')"]) ++
    sectionOf "Numeric dispersion (3 standard deviations)" (names .numeric)
      (fun ns => loop "numeric_vars" ns (numericCheck d p ids))

/-! ## The script -/

/-- A line of stars. -/
def rule : String := String.ofList (List.replicate 72 '*')

/-- The lines that load a dataset. -/
def opening (d : Dataset) : List String :=
  ["", rule, "* Dataset: " ++ d.name, rule, "use " ++ inQuotes d.reference ++ ", clear"]

/-- The part of a dataset. -/
def part (f : Form) (p : Parameters) (d : Dataset) : List String :=
  let isSurvey := d.name = surveyDataset
  opening d ++ (if isSurvey then surveySetup p else []) ++ kindSections f d p ++
    (if isSurvey then comments (identifiers d p) p else [])

/-- The lines before the parts. -/
def preamble (f : Form) (p : Parameters) : List String :=
  ["* High-frequency checks for " ++ f.name,
    "* Generated by hfcgen 0.1.0 from " ++ p.instrument,
    "", "clear all", "set more off", "cd " ++ inQuotes p.workingDir, "capture log close",
    "log using " ++ inQuotes (PathName.stem p.output ++ ".log") ++ ", text replace"] ++
    p.graphicsDir.toList.map fun dir => "capture mkdir " ++ inQuotes dir

/-- The lines of the script; the last one is empty. -/
def lines (f : Form) (p : Parameters) : List String :=
  preamble f p ++ f.datasets.flatMap (part f p) ++ ["", "log close", ""]

/-- The script. -/
def text (f : Form) (p : Parameters) : String := "\n".intercalate (lines f p)

/-- Whether a form has the survey dataset. -/
def hasSurvey (f : Form) : Bool := f.datasets.any (·.name == surveyDataset)

/-- The script of a form with settings. -/
def ofSettings (f : Form) (s : Settings) : Except DataFault String :=
  (s.parameters (hasSurvey f)).map (text f)

end SurveyChecks.Script
