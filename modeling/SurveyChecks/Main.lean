import SurveyChecks.CommandLine.Run
import SurveyChecks.Workbook.Document

/-!
# The program

Looks up the files that a run needs, does the run, and writes what it changed. A workbook is read
from the text that describes its sheets.
-/

namespace SurveyChecks

/-- The content of a file with the given name and text. -/
def Content.ofFile (path text : String) : Content :=
  match if Workspace.hasWorkbookName path then Workbook.ofText? text else none with
  | some b => .workbook b
  | none => .text text

namespace Workspace

/-- The workspace with what is at a path: a file, a directory or nothing. -/
def lookUp (w : Workspace) (path : String) : IO Workspace := do
  let place := placeOf path
  match ← (IO.FS.Handle.mk path .read).toBaseIO with
  | .error _ => return w
  | .ok _ =>
    match ← (IO.FS.readBinFile path).toBaseIO with
    | .ok bytes => return w.withFile place (.ofFile path ((String.fromUTF8? bytes).getD ""))
    | .error _ => return { w with directories := place :: w.directories }

/-- The workspace with what is at the paths and on them. -/
def lookUpAll (w : Workspace) (paths : List String) : IO Workspace :=
  (paths ++ paths.flatMap PathName.ancestors).foldlM lookUp w

/-- Writes the texts at the paths that are not as they were in `before`. -/
def save (before after : Workspace) (paths : List String) : IO Unit :=
  paths.forM fun path => do
    match after.locate path, before.locate path with
    | .file _ (.text s), .file _ (.text t) => unless s = t do IO.FS.writeFile path s
    | .file _ (.text s), _ => IO.FS.writeFile path s
    | _, _ => return

end Workspace

/-- Shows how a run ended and tells the status to exit with. -/
def report (o : Outcome) : IO UInt32 := do
  o.notes.forM fun n => IO.eprintln n.line
  match o.ending with
  | .status n => return n.toUInt32
  | .help =>
    IO.println Run.usage
    return 0
  | .usage message =>
    IO.eprintln (Run.usageReport message)
    return 2
  | .broken _ => return 1

end SurveyChecks

open SurveyChecks in
/-- A run with the words of the command line. -/
def main (words : List String) : IO UInt32 := do
  let configured ← Workspace.lookUpAll default (Run.paths words default)
  let before ← configured.lookUpAll (Run.paths words configured)
  let outcome := Run.ofCommandLine words before
  before.save outcome.workspace (Run.paths words before)
  report outcome
