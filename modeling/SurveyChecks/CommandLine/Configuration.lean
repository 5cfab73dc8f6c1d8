import SurveyChecks.CommandLine.Arguments
import SurveyChecks.Workspace
import SurveyChecks.Yaml.Reader

/-!
# Configuration

The settings of a run: those of a file, if one is named, overridden by the flags of the command
line. A file that is no map still gives settings when its items are pairs. Read by itself, a file
must be a map.
-/

namespace SurveyChecks

open SurveyChecks.Text

/-- Why there are no settings. -/
inductive ConfigurationError where
  /-- The file cannot be opened. -/
  | file (path : String) (fault : FileFault)
  /-- The file is not YAML. -/
  | yaml (e : Yaml.ReadError)
  /-- An item of the file is not a pair. -/
  | notAPair (position length : Nat)
  /-- The settings are refused. -/
  | settings (e : SettingsError)
  deriving Repr

namespace ConfigurationError

/-- The span of an offset from universal time, in a message. -/
def spanText (seconds : Int) : String :=
  let days := Int.fdiv seconds 86400
  let rest := Int.fmod seconds 86400
  let parts := (if days = 0 then [] else ["days=" ++ toString days]) ++
    (if rest = 0 then [] else ["seconds=" ++ toString rest])
  "datetime.timedelta(" ++ ", ".intercalate parts ++ ")"

/-- The greatest number of characters of a text without a number that are shown. -/
def shownLength : Nat := 200

/-- The wording about a value that does not exist; a text that is no YAML has none. -/
def valueMessage? : Yaml.ReadError → Option String
  | .notInteger base text =>
    some (s!"invalid literal for int() with base {base}: " ++
      String.ofList ((quoted text).toList.take shownLength))
  | .notFloat text => some ("could not convert string to float: " ++ quoted text)
  | .numberTooLong digits =>
    some (s!"Exceeds the limit (4300 digits) for integer string conversion: value has {digits} " ++
      "digits; use sys.set_int_max_str_digits() to increase the limit")
  | .noSuchTime part => some (Yaml.ReadError.partMessage part)
  | .offsetTooLong seconds =>
    some ("offset must be a timedelta strictly between -timedelta(hours=24) and " ++
      "timedelta(hours=24), not " ++ spanText seconds ++ ".")
  | .noSuchCharacter => some "chr() arg not in range(0x110000)"
  | _ => none

/-- The wording of an error that ends a run with a report; the others end it without. -/
def message? : ConfigurationError → Option String
  | .file path fault => some (fault.message path)
  | .yaml e => valueMessage? e
  | .notAPair position length =>
    some (s!"dictionary update sequence element #{position} has length {length}; 2 is required")
  | .settings e => e.message?

end ConfigurationError

namespace Settings

/-- The items of an item, which must be two. -/
def pairOf (position : Nat) (items : List Data) : Except ConfigurationError (Data × Data) :=
  match items with
  | [k, v] => .ok (k, v)
  | _ => .error (.notAPair position items.length)

/-- The items of an item. -/
def partsOf (d : Data) : Except ConfigurationError (List Data) :=
  d.elements.mapError fun f => .settings (.illTyped f)

/-- Puts the items of a list, which must be pairs, into a map. -/
def entriesOfItems (m : OrderedMap Data Data) :
    (position : Nat) → List Data → Except ConfigurationError (OrderedMap Data Data)
  | _, [] => .ok m
  | position, x :: xs => do
    let parts ← partsOf x
    let (k, v) ← pairOf position parts
    if k.isKey then entriesOfItems (m.insert k v) (position + 1) xs
    else throw (.settings (.illTyped .notAKey))

/-- The entries of the data of a file. -/
def fileEntries (d : Data) : Except ConfigurationError (List (Data × Data)) :=
  if !d.isTruthy then .ok []
  else
    match d.opened with
    | .map m => .ok m
    | d => (partsOf d).bind (entriesOfItems [] 0)

/-- The settings of entries overridden by flags. Every key must be a text before any of them is
looked at. -/
def overridden (entries : List (Data × Data)) (flags : List (Parameter × Data)) :
    Except SettingsError Settings := do
  let _ ← entries.mapM fun (k, _) => (keyText k).mapError .illTyped
  let assignments ← entries.mapM assignment
  let s := ofAssignments (assignments ++ flags)
  if s.missing.isEmpty then return s else throw (.missing (s.missing.map Parameter.key))

/-- The entries of the file of settings, none without a file. -/
def configEntries (w : Workspace) (config : Option String) :
    Except ConfigurationError (List (Data × Data)) :=
  match config.getD "" with
  | "" => .ok []
  | path => do
    let text ← (w.read path).mapError (.file path)
    let d ← (Yaml.readStored text 0).mapError .yaml
    fileEntries d

/-- The settings of a run. -/
def ofArguments (w : Workspace) (a : Arguments) : Except ConfigurationError Settings := do
  let entries ← configEntries w a.config
  (overridden entries a.parameters).mapError .settings

/-- The settings that a file describes by itself. -/
def ofFile (w : Workspace) (path : String) : Except ConfigurationError Settings := do
  let text ← (w.read path).mapError (.file path)
  let d ← (Yaml.readStored text 0).mapError .yaml
  (ofContent d).mapError .settings

end Settings

end SurveyChecks
