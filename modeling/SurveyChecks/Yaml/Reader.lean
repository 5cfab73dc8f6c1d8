import SurveyChecks.Data.Basic
import SurveyChecks.Data.Scatter
import SurveyChecks.Text.Base64
import SurveyChecks.Text.Blank
import SurveyChecks.Text.Edit
import SurveyChecks.Text.Lowercase
import SurveyChecks.Yaml.Document

/-!
# Reading YAML

The value that a text denotes. Scalars are read as their tags say; merge keys bring in the entries
of other mappings; the keys of a mapping must be scalars, and of entries with the same key the last
counts, at the place of the first. A document is read level by level, every node once, so of several
faults the first of the highest level counts. What is read has names, from one that is given on, so
that the values of several documents can be told apart.
-/

namespace SurveyChecks.Yaml

open SurveyChecks.Text

/-- The payload of the NaN that YAML texts name. -/
def nanPayload : Nat := 2

/-- The greatest number of digits of a decimal integer. -/
def maxDigits : Nat := 4300

/-! ## Numbers -/

/-- The characters without underscores. -/
def withoutLows (cs : List Char) : List Char := cs.filter (· != '_')

/-- A sign, if there is one, and the rest. -/
def splitSign? : List Char → Except ReadError (Bool × List Char)
  | [] => .error .emptyNumber
  | '-' :: cs => .ok (true, cs)
  | '+' :: cs => .ok (false, cs)
  | cs => .ok (false, cs)

/-- The letter that may tell the base of a numeral after a zero. -/
def baseLetter? (base : Nat) : Option Char :=
  if base = 2 then some 'b' else if base = 8 then some 'o' else if base = 16 then some 'x' else none

/-- The numeral without the zero and the letter that tell its base. -/
def withoutBase (base : Nat) : List Char → List Char
  | '0' :: c :: cs => if baseLetter? base = some c.toLower then cs else '0' :: c :: cs
  | cs => cs

/-- An integer in a base, with a sign of its own and blanks around it; the digits may be of any
script. Decimal digits are counted before what follows them is looked at. -/
def integerIn (base : Nat) (cs : List Char) : Except ReadError Int :=
  let fault : Except ReadError Int := .error (.notInteger base (String.ofList cs))
  let (negative, digits) := Binary64.splitSign ((stripNumeral cs).map asciiDigit)
  let digits := withoutBase base digits
  let count := (digits.takeWhile isDigit).length
  if digits.isEmpty then fault
  else if base = 10 && decide (maxDigits < count) then .error (.numberTooLong count)
  else
    match valueInBase? base digits with
    | some n => .ok (if negative then -(n : Int) else n)
    | none => fault

/-- Places of base sixty, the highest first. -/
def sixtyValue (places : List Int) : Int := places.foldl (fun n p => 60 * n + p) 0

/-- The unsigned part of an integer. -/
def unsignedInteger (cs : List Char) : Except ReadError Int :=
  match cs with
  | ['0'] => .ok 0
  | '0' :: 'b' :: r => integerIn 2 r
  | '0' :: 'x' :: r => integerIn 16 r
  | '0' :: _ => integerIn 8 cs
  | [] => .error .emptyNumber
  | _ =>
    if cs.contains ':' then do
      let places ← (splitAt ':' cs).mapM (integerIn 10)
      return sixtyValue places
    else integerIn 10 cs

/-- An integer. -/
def readInteger (s : String) : Except ReadError Int := do
  let (negative, cs) ← splitSign? (withoutLows s.toList)
  let n ← unsignedInteger cs
  return if negative then -n else n

/-- A floating-point literal. -/
def floatPart (cs : List Char) : Except ReadError Binary64 :=
  match Binary64.ofLiteral? cs with
  | some x => .ok x
  | none => .error (.notFloat (String.ofList cs))

/-- Adds up places of base sixty, the lowest first, each times its power, which must be in range. -/
def sixtySum : Int → Binary64 → List Binary64 → Except ReadError Binary64
  | _, sum, [] => .ok sum
  | power, sum, p :: ps =>
    match Binary64.ofInt power with
    | .infinite _ => .error .overflow
    | factor => sixtySum (60 * power) (sum.add (p.mul factor)) ps

/-- The unsigned part of a floating-point number. -/
def unsignedFloat (cs : List Char) : Except ReadError Binary64 :=
  if cs = ".inf".toList then .ok (.infinite false)
  else if cs = ".nan".toList then .ok (.nan nanPayload)
  else if cs.contains ':' then do
    let places ← (splitAt ':' cs).mapM floatPart
    sixtySum 1 (.ofInt 0) places.reverse
  else floatPart cs

/-- A floating-point number. -/
def readFloat (s : String) : Except ReadError Binary64 := do
  let (negative, cs) ← splitSign? (lower (String.ofList (withoutLows s.toList))).toList
  let x ← unsignedFloat cs
  return if negative && cs != ".nan".toList then x.neg else x

/-! ## Dates and times -/

/-- The microseconds that the digits of a fraction denote; only six of them count. -/
def microseconds (digits : List Char) : Nat :=
  decimalValue ((digits ++ List.replicate 6 '0').take 6)

/-- The first part of a date that does not exist. -/
def dateFault? (d : Date) : Option StampPart :=
  if d.year < 1 ∨ 9999 < d.year then some (.year d.year)
  else if d.month < 1 ∨ 12 < d.month then some .month
  else if d.day < 1 ∨ Date.daysIn d.year d.month < d.day then some .day
  else none

/-- The first part of a time that does not exist. -/
def timeFault? (t : TimeOfDay) : Option StampPart :=
  if 23 < t.hour then some .hour
  else if 59 < t.minute then some .minute
  else if 59 < t.second then some .second
  else none

/-- The offset of a zone in seconds. -/
def offsetOf : Option (Bool × List Char × List Char) → Except ReadError Int
  | none => .ok 0
  | some (negative, hours, minutes) =>
    let n : Int := 3600 * decimalValue hours + 60 * decimalValue minutes
    let n := if negative then -n else n
    if n.natAbs < 86400 then .ok n else .error (.offsetTooLong n)

/-- Fails when a part does not exist. -/
def noFault : Option StampPart → Except ReadError Unit
  | some p => .error (.noSuchTime p)
  | none => .ok ()

/-- A date, or a date with a time. A line feed may follow. -/
def readStamp (s : String) : Except ReadError Scalar := do
  let some stamp := stamp? (beforeFeed s.toList) | throw .notStamp
  let date : Date := ⟨decimalValue stamp.year, decimalValue stamp.month, decimalValue stamp.day⟩
  match stamp.clock with
  | none =>
    noFault (dateFault? date)
    return .date date
  | some (hour, minute, second, fraction) =>
    let offset ← stamp.zone.mapM offsetOf
    let time : TimeOfDay :=
      ⟨decimalValue hour, decimalValue minute, decimalValue second, microseconds fraction⟩
    noFault (dateFault? date)
    noFault (timeFault? time)
    return .moment ⟨date, time, offset⟩

/-! ## Scalars -/

/-- A truth value. -/
def readBool (s : String) : Except ReadError Bool :=
  let word := String.ofList (s.toList.map Char.toLower)
  if trueWords.contains word then .ok true
  else if falseWords.contains word then .ok false
  else .error .notBool

/-- Bytes, as characters of base 64. -/
def readBytes (s : String) : Except ReadError (List UInt8) :=
  let cs := s.toList
  match if cs.all fun c => c.toNat < 0x80 then Base64.decode? cs else none with
  | some bs => .ok bs
  | none => .error .malformed

/-- The scalar that a text with a tag denotes. -/
def readScalar (tag : Tag) (s : String) : Except ReadError Scalar :=
  match tag with
  | .null => .ok .null
  | .bool => (readBool s).map .bool
  | .int => (readInteger s).map .int
  | .float => (readFloat s).map .real
  | .timestamp => readStamp s
  | .str => .ok (.text s)
  | .binary => (readBytes s).map .bytes
  | _ => .error .malformed

/-! ## Reading nodes -/

/-- What has been read of a document. -/
structure Reading where
  /-- The nodes by place. -/
  nodes : Array Node
  /-- The values of the nodes read so far, which are empty for collections until their turn comes,
  and then the pairs in lists of pairs. -/
  parts : Array (Option Part)
  /-- The collections met on the level that is being read, whose parts make the next level; the last
  one first. -/
  met : List Nat := []

/-- A step of reading. -/
abbrev Read := StateT Reading (Except ReadError)

namespace Read

/-- The node at a place. -/
def node (i : Nat) : Read Node := return ((← get).nodes[i]?).getD .nothing

/-- Puts a node at a place. -/
def setNode (i : Nat) (n : Node) : Read Unit :=
  modify fun r => { r with nodes := r.nodes.setIfInBounds i n }

/-- Keeps the value of the node at a place. -/
def keep (i : Nat) (p : Part) : Read Unit :=
  modify fun r => { r with parts := r.parts.setIfInBounds i (some p) }

/-- Keeps the value of a collection at a place, whose parts are not yet read. -/
def meet (i : Nat) (p : Part) : Read Unit := do
  keep i p
  modify fun r => { r with met := i :: r.met }

/-- The text of a node read as a scalar: of a mapping, that of its first default value. -/
def textOf (nodes : Array Node) : (fuel : Nat) → Nat → Except ReadError String
  | 0, _ => .error .tooDeep
  | fuel + 1, i =>
    match (nodes[i]?).getD .nothing with
    | .scalar _ s => .ok s
    | .sequence .. => .error .malformed
    | .mapping _ entries =>
      match entries.find? fun (k, _) => ((nodes[k]?).getD .nothing).tag = .value with
      | some (_, v) => textOf nodes fuel v
      | none => .error .malformed

/-- A NaN that is not the named one is a value of its own, told apart by its `name`. -/
def withName (name : Nat) : Scalar → Scalar
  | .real (.nan p) => .real (.nan (if p = nanPayload then p else nanPayload + 1 + name))
  | s => s

/-- The scalar that a node denotes. -/
def scalar (n : Node) (i : Nat) : Read Scalar := do
  let nodes := (← get).nodes
  let text ← textOf nodes (nodes.size + 1) i
  match n.tag, n with
  | .timestamp, .mapping .. => throw .noStampText
  | t, _ => readScalar t text

/-- Reads the node at a place unless it has been read; of a collection no more than that there is
one. The names of a document start with `first`. -/
def visit (first i : Nat) : Read Unit := do
  if let some (some _) := (← get).parts[i]? then return
  let n ← node i
  match n.tag with
  | .seq | .pairs => meet i (.list [])
  | .map => meet i (.map [])
  | .set => meet i (.set [])
  | .merge | .value | .other _ => throw .malformed
  | _ => keep i (.scalar (withName (first + i) (← scalar n i)))

/-- Reads the node at a place as a key. -/
def key (first i : Nat) : Read Scalar := do
  visit first i
  match (← get).parts[i]? with
  | some (some (.scalar s)) => return s
  | _ => throw .malformed

/-! ## Merging -/

/-- The entries of the mapping at a place. -/
def entriesAt (i : Nat) : Read (List (Nat × Nat)) := do
  match ← node i with
  | .mapping _ entries => return entries
  | _ => throw .malformed

/-- The first merge key of the mapping at a place is taken out of it: its value. -/
def takeMerge? (i : Nat) : Read (Option Nat) := do
  let nodes := (← get).nodes
  match nodes[i]? with
  | some (.mapping tag entries) =>
    let isMerge (e : Nat × Nat) : Bool := ((nodes[e.1]?).getD .nothing).tag = .merge
    match entries.find? isMerge with
    | some (_, v) =>
      setNode i (.mapping tag (entries.eraseP isMerge))
      return some v
    | none => return none
  | _ => throw .malformed

/-- Makes the keys of default values in the mapping at a place ordinary texts. -/
def settle (i : Nat) : Read Unit := do
  (← entriesAt i).forM fun (k, _) => do
    let n ← node k
    if n.tag = .value then setNode k (n.withTag .str)

/-- Takes the merge keys of the mapping at a place one by one and then puts the entries that they
bring in, those of the mappings that their values are, before its own. The mappings of a sequence are
merged from the last to the first. Every step takes a merge key, so as much `fuel` as there are
entries is enough; a mapping that is being merged brings in what it then has. -/
def merge : (fuel : Nat) → (brought : List (Nat × Nat)) → Nat → Read Unit
  | 0, _, _ => throw .tooDeep
  | fuel + 1, brought, i => do
    match ← takeMerge? i with
    | none =>
      settle i
      if let .mapping tag entries ← node i then setNode i (.mapping tag (brought ++ entries))
    | some v =>
      let sources ←
        match ← node v with
        | .mapping .. => pure [v]
        | .sequence _ items => pure items
        | .scalar .. => throw .malformed
      let more ← sources.mapM fun s => do
        let _ ← entriesAt s
        merge fuel [] s
        entriesAt s
      merge fuel (brought ++ more.reverse.flatten) i

/-- The number of entries of a node. -/
def entryCount : Node → Nat
  | .mapping _ entries => entries.length
  | _ => 0

/-- The entries of the mapping at a place with those that its merge keys bring in. -/
def mergedEntries (i : Nat) : Read (List (Nat × Nat)) := do
  let count := ((← get).nodes.map entryCount).foldl (· + ·) 0
  merge (2 * count + 2) [] i
  entriesAt i

/-! ## Collections -/

/-- Puts an entry into a map whose keys are given as values and places. -/
def insertEntry (m : OrderedMap Scalar (Nat × Nat)) (k : Scalar) (i v : Nat) :
    OrderedMap Scalar (Nat × Nat) :=
  OrderedMap.update (fun old => ((old.map (·.1)).getD i, v)) k m

/-- Reads the entries of the mapping at a place. -/
def readEntries (first i : Nat) : Read (OrderedMap Scalar (Nat × Nat)) := do
  let put (m : OrderedMap Scalar (Nat × Nat)) (e : Nat × Nat) : Read _ := do
    let k ← key first e.1
    visit first e.2
    return insertEntry m k e.1 e.2
  (← mergedEntries i).foldlM put []

/-- Reads the only entry of the mapping at a place as a pair, which gets the next place. -/
def readPair (first i : Nat) : Read Nat := do
  match ← entriesAt i with
  | [(k, v)] =>
    visit first k
    visit first v
    modifyGet fun r => (r.parts.size, { r with parts := r.parts.push (some (.pair k v)) })
  | _ => throw .malformed

/-- Reads the parts of the collection at a place. -/
def fill (first i : Nat) : Read Unit := do
  match ← node i with
  | .sequence .seq items =>
    items.forM (visit first)
    keep i (.list items)
  | .sequence .pairs items => keep i (.list (← items.mapM (readPair first)))
  | .mapping .map _ => keep i (.map ((← readEntries first i).map (·.2)))
  | .mapping .set _ =>
    let m ← readEntries first i
    keep i (.set (Scatter.order (m.map fun (s, k, _) => (s, k))))
  | _ => throw .malformed

/-- Reads the parts of collections, then those of the collections met there, and so on. There are
not more levels than nodes. -/
def levels (first : Nat) : (fuel : Nat) → List Nat → Read Unit
  | _, [] => return
  | 0, _ => return
  | fuel + 1, is => do
    is.forM (fill first)
    let met ← modifyGet fun r => (r.met.reverse, { r with met := [] })
    levels first fuel met

end Read

/-- The value of a document, whose names start with `first`. -/
def Document.toData (d : Document) (first : Nat) : Except ReadError Data := do
  let n := d.nodes.size
  let all : Read Unit := do
    Read.visit first d.root
    let met ← modifyGet fun r => (r.met, { r with met := [] })
    Read.levels first (n + 1) met
  let (_, r) ← all.run { nodes := d.nodes, parts := Array.replicate n none }
  return .ofTable ⟨first, r.parts.map (·.getD (.scalar .null))⟩ d.root

/-! ## Texts and files -/

/-- The value that characters denote; they denote none without a document. -/
def ofChars (cs : List Char) (first : Nat) : Except ReadError Data := do
  match ← Document.ofTokens? (Token.ofChars cs) with
  | some d => d.toData first
  | none => return .null

/-- The value that a text denotes, whose names start with `first`. -/
def read (s : String) (first : Nat) : Except ReadError Data :=
  if s.toList.all isAllowed then ofChars s.toList first else .error .malformed

/-- The number of characters of a file that are read together. -/
def chunkLength : Nat := 4096

/-- The value that the text of a file denotes, whose lines may end in several ways. A file is read in
chunks, the first two together, and a character that may not occur counts only when its chunk is
read: a fault that is found before comes first. -/
def readStored (s : String) (first : Nat) : Except ReadError Data :=
  let cs := lineFeeds s.toList
  let allowed := (cs.takeWhile isAllowed).length
  if allowed = cs.length then ofChars cs first
  else if allowed < 2 * chunkLength then .error .malformed
  else do
    let _ ← Document.ofTokens? (Token.ofChars (cs.take (chunkLength * (allowed / chunkLength))))
    throw .malformed

end SurveyChecks.Yaml
