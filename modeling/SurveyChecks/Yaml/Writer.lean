import SurveyChecks.Text.Base64
import SurveyChecks.Yaml.Outline
import SurveyChecks.Yaml.Style

/-!
# Writing YAML

A value in block style: the entries of lists and maps on lines of their own, indented by two. A list
or map inside a list item starts on the line of the item; a list under a key stands at the
indentation of the key. A value that stands at several places is written once, with an anchor, and
elsewhere as an alias.
-/

namespace SurveyChecks.Yaml

open SurveyChecks.Text

/-- Numbers in YAML. -/
def numberStyle : Binary64.Style := ⟨".inf", ".nan", true⟩

/-- The text of a moment, plain if it would be read as one. -/
def writeMoment (place : Place) (column : Nat) (m : Moment) : List Char :=
  let cs := (m.isoText " ").toList
  if isTimestamp cs then foldRuns place false column (Run.ofChars cs)
  else
    let tag := "!!timestamp ".toList
    tag ++ writeSingle place (column + tag.length) cs

/-- Bytes on lines of their own. -/
def writeBytes (place : Place) (bs : List UInt8) : List Char :=
  match Text.Base64.encodeLines bs with
  | [] => "!!binary \"\"".toList
  | lines => "!!binary |".toList ++ lines.flatMap fun cs => newLine place.indent ++ cs

/-- A scalar from a column on. -/
def writeScalar (place : Place) (column : Nat) : Scalar → List Char
  | .null => "null".toList
  | .bool b => (if b then "true" else "false").toList
  | .int i => (toString i).toList
  | .real x => (x.text numberStyle).toList
  | .text s => writeText place column s
  | .date d => d.isoText.toList
  | .time t => t.isoText.toList
  | .moment m => writeMoment place column m
  | .bytes bs => writeBytes place bs

/-! ## Anchors -/

/-- The anchor of a name: its number among the anchors. -/
def anchorOf (anchors : List Nat) (name : Nat) : String :=
  "id" ++ decimalPadded 3 (anchors.idxOf name + 1)

/-- The anchor of a value whose name is one of the anchors. -/
def anchor? (anchors : List Nat) (name : Option Nat) : Option String :=
  (name.filter anchors.contains).map (anchorOf anchors)

/-- What stands before a value: its anchor and its tag, if they are written. -/
def properties (anchor : Option String) (tag : Option String) : List Char :=
  " ".intercalate (anchor.toList.map ("&" ++ ·) ++ tag.toList) |>.toList

/-- A text after the properties of its value. -/
def afterProperties (properties text : List Char) : List Char :=
  if properties.isEmpty then text else properties ++ ' ' :: text

/-! ## Keys -/

/-- The length of the name of a scalar's tag. -/
def tagLength : Scalar → Nat
  | .null | .bool _ => 6
  | .real _ => 7
  | .bytes _ => 8
  | .date _ | .moment _ | .time _ => 11
  | .int _ | .text _ => 5

/-- The length of a scalar's text before it is written. -/
def sourceLength : Scalar → Nat
  | .text s => s.length
  | s => (writeScalar ⟨0, false⟩ 0 s).length

/-- Whether a text has several lines. -/
def isMultiline : Scalar → Bool
  | .text s => s.toList.any fun c => isBreak c && c != '\r'
  | .bytes _ => true
  | _ => false

/-- Whether a key can stand before its colon on one line: it is short, has a single line and is not
the empty text, or it stands before. -/
def isSimpleKey (anchors : List Nat) : Outline → Bool
  | .again _ => true
  | .scalar name k =>
    let length := ((anchor? anchors name).getD "").length + tagLength k + sourceLength k
    decide (0 < sourceLength k) && !isMultiline k && decide (length < 128)
  | .list _ xs => xs.isEmpty
  | .map _ _ es => es.isEmpty

/-- A simple key at a column. -/
def simpleKey (anchors : List Nat) (column : Nat) : Outline → List Char
  | .again n => '*' :: (anchorOf anchors n).toList
  | .scalar name k =>
    let ps := properties (anchor? anchors name) none
    afterProperties ps (writeScalar ⟨column + 2, false⟩ (column + ps.length) k)
  | .list name _ => afterProperties (properties (anchor? anchors name) none) ['[', ']']
  | .map name _ _ => afterProperties (properties (anchor? anchors name) none) ['\x7b', '\x7d']

/-! ## Values -/

/-- What a value follows. -/
inductive Position where
  /-- Nothing: it is the whole document. -/
  | top
  /-- The mark of an item. -/
  | item
  /-- The mark of the key or the value of an entry that is not simple. -/
  | part
  /-- The colon after a simple key. -/
  | underKey
  deriving DecidableEq, Repr

/-- The indentation of the entries of a list; `apart` tells whether they start on a new line. -/
def listIndent (position : Position) (apart : Bool) (n : Nat) : Nat :=
  match position with
  | .top => 0
  | .item => n + 2
  | .part => if apart then n else n + 2
  | .underKey => n

/-- The indentation of the entries of a map. -/
def mapIndent : Position → Nat → Nat
  | .top, _ => 0
  | _, n => n + 2

/-- Whether the entries of a list or map start on a new line. -/
def startsApart (position : Position) (properties : List Char) : Bool :=
  position == .underKey || !properties.isEmpty

/-- A text, after a space unless it is the whole document. -/
def inline (position : Position) (cs : List Char) : List Char :=
  match position with
  | .top => cs
  | _ => ' ' :: cs

/-- What stands before the first entry of a list or map with the given indentation. -/
def leadIn (position : Position) (properties : List Char) (n : Nat) : List Char :=
  (if properties.isEmpty then [] else inline position properties) ++
    (if startsApart position properties then newLine n
    else if position == .top then [] else [' '])

/-- The column at which the text of a value without parts starts. -/
def inlineColumn (position : Position) (column : Nat) (properties : List Char) : Nat :=
  column + (if position == .top then 0 else 1) +
    (if properties.isEmpty then 0 else properties.length + 1)

mutual

/-- A value inside a collection of indentation `indent`, from a column on. -/
def node (anchors : List Nat) (position : Position) (indent column : Nat) : Outline → List Char
  | .again n => inline position ('*' :: (anchorOf anchors n).toList)
  | .scalar name s =>
    let ps := properties (anchor? anchors name) none
    let cs := writeScalar ⟨indent + 2, true⟩ (inlineColumn position column ps) s
    inline position (afterProperties ps cs)
  | .list name xs =>
    let ps := properties (anchor? anchors name) none
    let n := listIndent position (startsApart position ps) indent
    if xs.isEmpty then inline position (afterProperties ps ['[', ']'])
    else leadIn position ps n ++ listEntries anchors n xs
  | .map name isSet es =>
    let ps := properties (anchor? anchors name) (if isSet then some "!!set" else none)
    let n := mapIndent position indent
    if es.isEmpty then inline position (afterProperties ps ['\x7b', '\x7d'])
    else leadIn position ps n ++ mapEntries anchors n es

/-- The items of a list, each after the first on a new line. -/
def listEntries (anchors : List Nat) (n : Nat) : List Outline → List Char
  | [] => []
  | x :: xs =>
    '-' :: node anchors .item n (n + 1) x ++ (if xs.isEmpty then [] else newLine n) ++
      listEntries anchors n xs

/-- The entries of a map, each after the first on a new line. -/
def mapEntries (anchors : List Nat) (n : Nat) : List (Outline × Outline) → List Char
  | [] => []
  | (k, v) :: es =>
    let entry :=
      if isSimpleKey anchors k then
        let key := simpleKey anchors n k
        key ++ ':' :: node anchors .underKey n (n + key.length + 1) v
      else
        '?' :: node anchors .part n (n + 1) k ++ newLine n ++ ':' :: node anchors .part n (n + 1) v
    entry ++ (if es.isEmpty then [] else newLine n) ++ mapEntries anchors n es

end

/-- A value as a YAML document. -/
def write (d : Data) : Except DataFault String := do
  let (o, anchors) ← Outline.ofData d
  return String.ofList (node anchors .top 0 0 o ++ ['\n'])

end SurveyChecks.Yaml
