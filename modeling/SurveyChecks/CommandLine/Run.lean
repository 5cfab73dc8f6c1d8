import SurveyChecks.CommandLine.Configuration
import SurveyChecks.Catalog.Document
import SurveyChecks.Checks.Script
import SurveyChecks.Form.File
import SurveyChecks.Report

/-!
# Runs

A run of the program as a function: from the words of the command line and the files there are to
how it ends, what it notes, and the files there are then. It reads the form, notes what the report
warns of, writes the script and, if asked to, the catalog.
-/

namespace SurveyChecks

open SurveyChecks.Text

/-- Why a run breaks off without a report. -/
inductive Breakdown where
  /-- There are no settings. -/
  | configuration (e : ConfigurationError)
  /-- The form cannot be read. -/
  | form (e : FormError)
  /-- A file cannot be opened, for a reason that is not reported. -/
  | file (f : FileFault)
  /-- A setting is not of the kind that its place needs. -/
  | value (f : DataFault)
  deriving Repr

/-- How a run ends. -/
inductive Ending where
  /-- It comes to its end with a status, which is zero when all was done. -/
  | status (n : Nat)
  /-- The command line asks how the program is used. -/
  | help
  /-- The command line is wrong. -/
  | usage (message : String)
  /-- It breaks off. -/
  | broken (b : Breakdown)
  deriving Repr

/-- What comes of a run. -/
structure Outcome where
  /-- How the run ends. -/
  ending : Ending
  /-- What it notes. -/
  notes : List Note
  /-- The files after it. -/
  workspace : Workspace

namespace Outcome

/-- The outcome with earlier notes in front. -/
def after (notes : List Note) (o : Outcome) : Outcome := { o with notes := notes ++ o.notes }

/-- The end of a run with a report of why. -/
def reported (w : Workspace) (text : String) : Outcome := ⟨.status 1, [⟨.error, text⟩], w⟩

/-- The end of a run without a report. -/
def brokenOff (w : Workspace) (b : Breakdown) : Outcome := ⟨.broken b, [], w⟩

end Outcome

namespace Run

/-- Writes a text, and goes on in the workspace that then is. A text that cannot be stored leaves an
empty file. -/
def writing (w : Workspace) (path text note : String) (next : Workspace → Outcome) : Outcome :=
  match w.write path (if isStorable text then text else "") with
  | .ok w =>
    if isStorable text then (next w).after [⟨.info, note⟩] else .brokenOff w (.file .notStorable)
  | .error .nullCharacter => .brokenOff w (.file .nullCharacter)
  | .error .notStorable => .brokenOff w (.file .notStorable)
  | .error fault => .reported w ("write " ++ path ++ ": " ++ fault.message path)

/-- The last step: the catalog, if it is wanted. -/
def catalogStep (a : Arguments) (f : Form) (w : Workspace) : Outcome :=
  match a.catalog.getD "" with
  | "" => ⟨.status 0, [], w⟩
  | path =>
    match f.catalog.toYaml with
    | .ok text => writing w path text ("Wrote " ++ path) fun w => ⟨.status 0, [], w⟩
    | .error fault => .brokenOff w (.value fault)

/-- The step that writes the script. -/
def scriptStep (a : Arguments) (s : Settings) (f : Form) (w : Workspace) : Outcome :=
  match s.parameters (Script.hasSurvey f) with
  | .error fault => .brokenOff w (.value fault)
  | .ok p =>
    writing w p.output (Script.text f p)
      s!"Wrote {p.output} ({f.datasets.length} datasets)" (catalogStep a f)

/-- Whether an error in a form ends a run with a report. -/
def isReported : FormError → Bool
  | .missingColumns .. | .missingSheets .. | .noWorkbook _ | .unbalancedRepeats ..
  | .unclosedRepeat _ => true
  | _ => false

/-- The step that reads the form. -/
def formStep (a : Arguments) (s : Settings) (path : String) (w : Workspace) : Outcome :=
  Outcome.after (Form.fileNotes w path none) <|
    match Form.ofFile w path none with
    | .ok f => (scriptStep a s f w).after (Report.ofForm f).notes
    | .error e =>
      if isReported e then .reported w ("parse " ++ path ++ ": " ++ e.message)
      else .brokenOff w (.form e)

/-- A run with arguments. -/
def withArguments (a : Arguments) (w : Workspace) : Outcome :=
  match Settings.ofArguments w a with
  | .ok s =>
    match Settings.pathText (s.value .instrument) with
    | .ok path => formStep a s path w
    | .error fault => .brokenOff w (.value fault)
  | .error e =>
    match e.message? with
    | some m => .reported w ("configuration: " ++ m)
    | none => .brokenOff w (.configuration e)

/-! ## From the words on -/

/-- The notes that are shown: details only when all notes are wanted. -/
def shownNotes (verbose : Bool) (notes : List Note) : List Note :=
  notes.filter fun n => verbose || n.level != .debug

/-- A run. -/
def ofCommandLine (words : List String) (w : Workspace) : Outcome :=
  match Arguments.ofTexts words with
  | .ok a =>
    let o := withArguments a w
    { o with notes := shownNotes a.verbose o.notes }
  | .error .help => ⟨.help, [], w⟩
  | .error (.usage m) => ⟨.usage m, [], w⟩

/-- The paths that a run looks at, as far as the files known so far tell. -/
def paths (words : List String) (w : Workspace) : List String :=
  match Arguments.ofTexts words with
  | .error _ => []
  | .ok a =>
    let inputs :=
      match Settings.ofArguments w a with
      | .ok s => [s.value .instrument, s.value .output].filterMap fun d =>
        (Settings.pathText d).toOption
      | .error _ => []
    a.config.toList ++ inputs ++ a.catalog.toList

/-! ## Reports -/

/-- The name that the program goes by. -/
def program : String := "hfcgen"

/-- The line about a wrong command line. -/
def usageReport (message : String) : String := program ++ ": error: " ++ message

/-- The line about the words that the program takes. -/
def usage : String :=
  "usage: " ++ program ++ " " ++ " ".intercalate (Flag.all.map fun f => "[" ++ f.title ++ "]")

end Run

end SurveyChecks
