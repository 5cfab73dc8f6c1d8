import SurveyChecks.Data.Basic
import SurveyChecks.Data.Fault

/-!
# Writing JSON

A value on one line, in ASCII, with the keys of every map in ascending order. Keys that are not
texts are ordered by value first and written as texts afterwards.
-/

namespace SurveyChecks.Json

open SurveyChecks.Text

/-! ## Texts -/

/-- A code unit of sixteen bits as an escape. -/
def unitEscape (n : Nat) : String := "\\u" ++ hexPadded 4 n

/-- A character inside a written text. Beyond sixteen bits it takes two code units. -/
def escaped (c : Char) : String :=
  let n := codeOf c
  if c = '"' then "\\\""
  else if c = '\\' then "\\\\"
  else if c = '\n' then "\\n"
  else if c = '\r' then "\\r"
  else if c = '\t' then "\\t"
  else if n = 0xC then "\\f"
  else if n = 0x8 then "\\b"
  else if 0x20 ≤ n ∧ n < 0x7F then c.toString
  else if n < 0x10000 then unitEscape n
  else unitEscape (0xD800 + (n - 0x10000) / 0x400) ++ unitEscape (0xDC00 + (n - 0x10000) % 0x400)

/-- A text between double quotes. -/
def textLiteral (s : String) : String := "\"" ++ String.join (s.toList.map escaped) ++ "\""

/-! ## Keys -/

/-- Numbers in JSON. -/
def numberStyle : Binary64.Style := ⟨"Infinity", "NaN", false⟩

/-- The text that a key is written as. -/
def keyText? (k : Data) : Option String :=
  match k.unnamed with
  | .scalar .null => some "null"
  | .scalar (.bool b) => some (if b then "true" else "false")
  | .scalar (.int i) => some (toString i)
  | .scalar (.real x) => some (x.text numberStyle)
  | .scalar (.text s) => some s
  | _ => none

/-- A key as a number, for keys that are numbers or truth values. -/
def keyNumber? (k : Data) : Option Binary64 :=
  match k.unnamed with
  | .scalar (.bool b) => some (.finite false (if b then 1 else 0) 0)
  | .scalar (.int i) => some (.finite (decide (i < 0)) i.natAbs 0)
  | .scalar (.real x) => some x
  | _ => none

/-- Whether a key is a text. -/
def isText (k : Data) : Bool :=
  match k with
  | .scalar (.text _) => true
  | _ => false

/-- Whether the first key does not come after the second. -/
def keyLe (a b : Data) : Bool :=
  match a, b with
  | .scalar (.text s), .scalar (.text t) => decide (s ≤ t)
  | _, _ =>
    match keyNumber? a, keyNumber? b with
    | some x, some y => !y.lt x
    | _, _ => true

/-- Whether keys can be put in order: all are texts or all are numbers, or there is only one. -/
def keysOrdered (ks : List Data) : Bool :=
  ks.length ≤ 1 || ks.all isText || ks.all fun k => (keyNumber? k).isSome

/-! ## Values -/

/-- A scalar as JSON. -/
def writeScalar (s : Scalar) : Except DataFault String :=
  if !s.hasText then .error .numeralTooLong
  else
    match s with
    | .text t => .ok (textLiteral t)
    | s =>
      match keyText? (.scalar s) with
      | some t => .ok t
      | none => .error .notWritable

/-- A key as JSON. -/
def writeKey (k : Data) : Except DataFault String :=
  if !k.hasText then .error .numeralTooLong
  else
    match keyText? k with
    | some t => .ok (textLiteral t)
    | none => .error .notWritable

/-- A member of a map: its key and the text of both. -/
structure Member where
  /-- The key. -/
  key : Data
  /-- The key and the value as written. -/
  written : Except DataFault String

/-- The members in the order of their keys, between braces. -/
def object (members : List Member) : Except DataFault String :=
  if keysOrdered (members.map (·.key)) then do
    let sorted := members.mergeSort fun a b => keyLe a.key b.key
    let texts ← sorted.mapM (·.written)
    return "\x7b" ++ ", ".intercalate texts ++ "\x7d"
  else throw .keysNotOrdered

mutual

/-- A value as JSON, given the texts of knots. -/
def writeBy (knot : Knot → Except DataFault String) : Data → Except DataFault String
  | .scalar s => writeScalar s
  | .list xs => (writeItemsBy knot xs).map fun ts => "[" ++ ", ".intercalate ts ++ "]"
  | .pair x y => do
    let s ← writeBy knot x
    let t ← writeBy knot y
    return "[" ++ s ++ ", " ++ t ++ "]"
  | .set _ => .error .notWritable
  | .map m => object (writeMembersBy knot m)
  | .named _ d => writeBy knot d
  | .knot k => knot k

/-- The items of a list. -/
def writeItemsBy (knot : Knot → Except DataFault String) :
    List Data → Except DataFault (List String)
  | [] => .ok []
  | x :: xs => do
    let t ← writeBy knot x
    let ts ← writeItemsBy knot xs
    return t :: ts

/-- The members of a map. -/
def writeMembersBy (knot : Knot → Except DataFault String) : List (Data × Data) → List Member
  | [] => []
  | (k, v) :: m =>
    let written := do
      let name ← writeKey k
      let text ← writeBy knot v
      return name ++ ": " ++ text
    ⟨k, written⟩ :: writeMembersBy knot m

end

/-- A value as JSON. One that contains itself has no end, unless something before it has no form. -/
def write (d : Data) : Except DataFault String :=
  writeBy (fun k => writeBy (fun _ => .error .endless) (Data.unrolled k)) d

end SurveyChecks.Json
