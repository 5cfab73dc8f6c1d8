import SurveyChecks.PathName
import SurveyChecks.Text.Quoted
import SurveyChecks.Workbook

/-!
# Workspaces

The files that a run can read and write, as a value: texts and workbooks by path. Directories exist
when they are named, or a file or another directory lies in them.
-/

namespace SurveyChecks

open SurveyChecks.Text

/-- What a file holds. -/
inductive Content where
  /-- A text. -/
  | text (s : String)
  /-- A workbook. -/
  | workbook (w : Workbook)
  deriving Inhabited

/-- A place: the components of a path without detours that leads to it. A place above the directory
of the run starts with two points, one below the root of all directories with a slash. -/
abbrev Place := List (List Char)

/-- The files by place. -/
structure Workspace where
  /-- The files. -/
  files : OrderedMap Place Content
  /-- Directories, whether files lie in them or not. -/
  directories : List Place := []
  deriving Inhabited

/-- Why a file cannot be opened. -/
inductive FileFault where
  /-- There is no such file or no such directory for it. -/
  | missing
  /-- A part of the path that should be a directory is a file. -/
  | notADirectory
  /-- The path leads to a directory. -/
  | isDirectory
  /-- The path or a part of it is too long. -/
  | tooLong
  /-- The path has a null character. -/
  | nullCharacter
  /-- The path or the text has a character that cannot be stored. -/
  | notStorable
  /-- The file holds no text. -/
  | notText
  deriving DecidableEq, Repr

/-- The wording about a file that cannot be opened. -/
def FileFault.message (path : String) : FileFault → String
  | .missing => "[Errno 2] No such file or directory: " ++ quoted path
  | .notADirectory => "[Errno 20] Not a directory: " ++ quoted path
  | .isDirectory => "[Errno 21] Is a directory: " ++ quoted path
  | .tooLong => "[Errno 36] File name too long: " ++ quoted path
  | .nullCharacter => "embedded null byte"
  | .notStorable => "surrogates not allowed: " ++ quoted path
  | .notText => "not a text: " ++ quoted path

namespace Workspace

/-! ## Paths -/

/-- Where a path leads. -/
inductive Location where
  /-- To a file. -/
  | file (place : Place) (c : Content)
  /-- To a directory. -/
  | directory
  /-- To a place in a directory where no file is. -/
  | free (place : Place)
  /-- To no place in a directory. -/
  | nowhere
  /-- Through a file. -/
  | throughFile
  /-- To a name that is too long; `last` tells whether the path ends with it. -/
  | tooLong (last : Bool)

/-- The greatest number of bytes in a name. -/
def maxNameBytes : Nat := 255

/-- The greatest number of bytes in a path. -/
def maxPathBytes : Nat := 4095

/-- The root of all directories. -/
def root : Place := [['/']]

/-- The place where a path starts. -/
def startOf (path : String) : Place := if PathName.isAbsolute path then root else []

/-- The directory above a directory; the root is above itself. -/
def above (here : Place) : Place :=
  if here = root then root
  else if here.all (· == ['.', '.']) then here ++ [['.', '.']]
  else here.dropLast

/-- The place to which segments lead from the directory `here`, if all on the way are directories. -/
def placeFrom (here : Place) : List (List Char) → Place
  | [] => here
  | s :: rest =>
    placeFrom (if s = ['.'] then here else if s = ['.', '.'] then above here else here ++ [s]) rest

/-- The place to which a path leads, if all on the way are directories. -/
def placeOf (path : String) : Place := placeFrom (startOf path) (PathName.segments path)

/-- Whether a directory is at a place: those above the directory of the run exist. -/
def hasDirectory (w : Workspace) (p : Place) : Bool :=
  p == root || p.all (· == ['.', '.']) || w.directories.any (p.isPrefixOf ·) ||
    w.files.any fun (q, _) => p.isPrefixOf q && q != p

/-- Where segments lead from the directory `here`. Each of them but the last must lead to a
directory. -/
def locateFrom (w : Workspace) (here : Place) : List (List Char) → Location
  | [] => .directory
  | ['.'] :: rest => w.locateFrom here rest
  | ['.', '.'] :: rest => w.locateFrom (above here) rest
  | s :: rest =>
    let next := here ++ [s]
    if maxNameBytes < (String.ofList s).utf8ByteSize then .tooLong rest.isEmpty
    else
      match w.files.get? next with
      | some content => if rest.isEmpty then .file next content else .throughFile
      | none =>
        if w.hasDirectory next then w.locateFrom next rest
        else if rest.isEmpty then .free next
        else .nowhere

/-- Where a path leads. -/
def locate (w : Workspace) (path : String) : Location :=
  w.locateFrom (startOf path) (PathName.segments path)

/-- Why a path leads nowhere, whatever files there are. -/
def pathFault? (path : String) : Option FileFault :=
  if !isStorable path then some .notStorable
  else if path.toList.contains '\x00' then some .nullCharacter
  else if path = "" then some .missing
  else if maxPathBytes < path.utf8ByteSize then some .tooLong
  else none

/-- Whether a path ends as only paths of directories do. -/
def namesDirectory (path : String) : Bool := path.toList.getLast? == some '/'

/-! ## Texts -/

/-- The workspace with another file. -/
def withFile (w : Workspace) (p : Place) (c : Content) : Workspace :=
  { w with files := w.files.insert p c }

/-- The text in a file. -/
def textOf : Content → Except FileFault String
  | .text s => .ok s
  | .workbook _ => .error .notText

/-- The text of a file. -/
def read (w : Workspace) (path : String) : Except FileFault String :=
  match pathFault? path with
  | some f => .error f
  | none =>
    match w.locate path with
    | .file _ c => if namesDirectory path then .error .notADirectory else textOf c
    | .directory => .error .isDirectory
    | .free _ | .nowhere => .error .missing
    | .throughFile => .error .notADirectory
    | .tooLong _ => .error .tooLong

/-- The place at which a file can be written. -/
def placeToWrite (w : Workspace) (path : String) : Except FileFault Place :=
  match pathFault? path with
  | some f => .error f
  | none =>
    match w.locate path with
    | .file p _ | .free p => if namesDirectory path then .error .isDirectory else .ok p
    | .directory => .error .isDirectory
    | .nowhere => .error .missing
    | .throughFile => .error .notADirectory
    | .tooLong last => .error (if last && namesDirectory path then .isDirectory else .tooLong)

/-- The workspace after a text was written to a file. -/
def write (w : Workspace) (path text : String) : Except FileFault Workspace :=
  (w.placeToWrite path).map fun p => w.withFile p (.text text)

/-! ## Workbooks -/

/-- The extensions of workbooks. -/
def workbookExtensions : List String := [".xlsx", ".xlsm", ".xltx", ".xltm"]

/-- Whether the name of a file is that of a workbook, whatever its case. -/
def hasWorkbookName (path : String) : Bool :=
  let name := (PathName.last path).map Char.toLower
  workbookExtensions.any fun e =>
    e.toList.isSuffixOf name && (name.take (name.length - e.length)).any (· != '.')

/-- Where the path of a workbook leads: its components are looked up, whatever else is written
between its slashes. -/
def locateWorkbook (w : Workspace) (path : String) : Location :=
  match pathFault? (PathName.plain path) with
  | some .nullCharacter | some .notStorable => .nowhere
  | some .tooLong => .tooLong false
  | _ => w.locateFrom (startOf path) (PathName.components path)

/-- The workbook at a path. -/
def openWorkbook (w : Workspace) (path : String) : Except FormError Workbook :=
  match w.locateWorkbook path with
  | .file _ c =>
    if !hasWorkbookName path then .error .notAWorkbookName
    else
      match c with
      | .workbook b => if b.hasReadableNames then .ok b else .error .unreadable
      | .text _ => .error .notAWorkbook
  | .directory => .error .notAWorkbookName
  | .tooLong _ => .error .nameTooLong
  | _ => .error (.noWorkbook path)

/-- The sheets of the names in the workbook at a path. -/
def readSheets (w : Workspace) (path : String) (names : List String) :
    Except FormError (OrderedMap String Sheet) := do
  let b ← w.openWorkbook path
  b.readSheets (PathName.name path) names

/-- The notes that reading sheets makes. -/
def readNotes (w : Workspace) (path : String) (names : List String) : List Note :=
  match w.openWorkbook path with
  | .ok b => b.readNotes names
  | .error _ => []

/-! ## Changes -/

/-- The texts of the files that are not as they were in `before`, by place. -/
def changes (before after : Workspace) : List (Place × String) :=
  after.files.filterMap fun (p, c) =>
    match c, before.files.get? p with
    | .text s, some (.text t) => if s = t then none else some (p, s)
    | .text s, _ => some (p, s)
    | .workbook _, _ => none

end Workspace

end SurveyChecks
