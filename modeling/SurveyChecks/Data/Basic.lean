import SurveyChecks.Data.Knot
import SurveyChecks.OrderedMap

/-!
# Data

Nested values: what a document in one of the text formats denotes. A value is a scalar, or a list, a
pair, a set or an ordered map of values. A value may have a name, under which it stands at several
places as one thing; the name makes no difference to what the value is. A value in which some
collection contains itself is a knot, which opens into a collection.
-/

namespace SurveyChecks

open SurveyChecks.Text

/-- A nested value. -/
inductive Data where
  /-- A value without parts. -/
  | scalar (s : Scalar)
  /-- A list of values. -/
  | list (items : List Data)
  /-- A pair of values. -/
  | pair (first second : Data)
  /-- A set of values, each of which can be a key. -/
  | set (elements : List Data)
  /-- A map from values that can be keys to values, in the order of insertion. -/
  | map (entries : List (Data × Data))
  /-- A value under a name. -/
  | named (name : Nat) (value : Data)
  /-- A collection in which some collection contains itself. -/
  | knot (k : Knot)
  deriving Inhabited

namespace Data

/-! ## Short names -/

/-- No value. -/
abbrev null : Data := .scalar .null

/-- A text. -/
abbrev text (s : String) : Data := .scalar (.text s)

/-- An integer. -/
abbrev int (i : Int) : Data := .scalar (.int i)

/-- A list of texts. -/
def texts (ss : List String) : Data := .list (ss.map text)

/-- An integer, or null. -/
def int? (i : Option Int) : Data := (i.map int).getD null

/-- A map whose keys are texts. -/
def record (fields : List (String × Data)) : Data := .map (fields.map fun (k, v) => (text k, v))

/-! ## Names -/

/-- A value without its name. -/
def unnamed : Data → Data
  | .named _ d => d.unnamed
  | d => d

/-- The name of a value, if it has one. -/
def name? : Data → Option Nat
  | .named n _ => some n
  | .knot k => some k.name
  | _ => none

/-- Whether a value can be a key: a scalar, or a pair of two such values. -/
def isKey : Data → Bool
  | .scalar _ => true
  | .pair a b => a.isKey && b.isKey
  | .named _ d => d.isKey
  | _ => false

/-! ## Tables -/

/-- The value at a place of a table, whose parts are made by `child`. -/
def assembled {m : Type → Type} [Monad m] (t : Table) (child : Nat → m Data) (i : Nat) : m Data :=
  match t.part i with
  | .scalar s => return .scalar s
  | .list items => return .list (← items.mapM child)
  | .pair a b => return .pair (← child a) (← child b)
  | .set elements => return .set (← elements.mapM child)
  | .map entries => return .map (← entries.mapM fun (k, v) => return (← child k, ← child v))

/-- Whether a value without parts is told apart from others of the same content. -/
def isThing : Scalar → Bool
  | .date _ | .time _ | .moment _ => true
  | _ => false

/-- A value of a place of a table, under the name of the place. -/
def atPlace (t : Table) (i : Nat) : Data → Data
  | .scalar s => if isThing s then .named (t.name i) (.scalar s) else .scalar s
  | d => .named (t.name i) d

/-- The value at a place of a table when its collections do not contain themselves. A value that
several collections share is built once. No value is nested deeper than there are places, so when
that much `fuel` is used up there is none. -/
def tree? (t : Table) : (fuel : Nat) → Nat → OptionT (StateM (Array (Option Data))) Data
  | 0, _ => failure
  | fuel + 1, i => do
    if let some (some d) := (← get)[i]? then return d
    let d ← assembled t (tree? t fuel) i
    let d := atPlace t i d
    modify fun trees => trees.setIfInBounds i (some d)
    return d

/-- The value at a place of a table. -/
def ofTable (t : Table) (i : Nat) : Data :=
  let trees := Array.replicate t.parts.size none
  (((tree? t (t.parts.size + 1) i).run trees).run.1).getD (.knot ⟨t, i⟩)

/-- The value at place `i` inside those at the places `around`, in which a collection that is met
inside itself is left as a knot. No place is entered twice, so as much `fuel` as there are places is
enough. -/
def unrolledAt (t : Table) : (fuel : Nat) → (around : List Nat) → Nat → Data
  | 0, _, i => .knot ⟨t, i⟩
  | fuel + 1, around, i =>
    if around.contains i then .knot ⟨t, i⟩
    else atPlace t i (Id.run (assembled t (unrolledAt t fuel (i :: around)) i))

/-- A knot as a value in which the only knots are those met inside themselves. -/
def unrolled (k : Knot) : Data := unrolledAt k.table (k.table.parts.size + 1) [] k.root

/-- A value without its name, a knot as the collection that it is. -/
def opened : Data → Data
  | .named _ d => d.opened
  | .knot k => Id.run (assembled k.table (fun i => pure (ofTable k.table i)) k.root)
  | d => d

/-! ## Equality -/

mutual

/-- Whether two values are the same, whatever their names: lists item by item, sets and maps in any
order. A knot is the same as the knot of its name. -/
def same : Data → Data → Bool
  | .scalar a, b =>
    match b.unnamed with
    | .scalar b => a == b
    | _ => false
  | .list xs, b =>
    match b.unnamed with
    | .list ys => sameItems xs ys
    | _ => false
  | .pair x y, b =>
    match b.unnamed with
    | .pair u v => same x u && same y v
    | _ => false
  | .set xs, b =>
    match b.unnamed with
    | .set ys => xs.length == ys.length && sameElements xs ys
    | _ => false
  | .map m, b =>
    match b.unnamed with
    | .map n => m.length == n.length && sameEntries m n
    | _ => false
  | .named _ a, b => same a b
  | .knot k, b =>
    match b.unnamed with
    | .knot l => k.name == l.name
    | _ => false

/-- Whether two lists are the same item by item. -/
def sameItems : List Data → List Data → Bool
  | [], [] => true
  | x :: xs, y :: ys => same x y && sameItems xs ys
  | _, _ => false

/-- Whether every value of the first list is the same as one of the second. -/
def sameElements : List Data → List Data → Bool
  | [], _ => true
  | x :: xs, ys => ys.any (same x) && sameElements xs ys

/-- Whether every entry of the first map is one of the second. -/
def sameEntries : List (Data × Data) → List (Data × Data) → Bool
  | [], _ => true
  | (k, v) :: m, n =>
    (match n.find? fun e => same k e.1 with
      | some (_, w) => same v w
      | none => false) && sameEntries m n

end

instance : BEq Data := ⟨same⟩

/-! ## Truth -/

/-- Whether a value counts as given: a scalar that does, a collection that is not empty. -/
def isTruthy : Data → Bool
  | .scalar s => s.isTruthy
  | .list xs => !xs.isEmpty
  | .pair .. => true
  | .set xs => !xs.isEmpty
  | .map m => !m.isEmpty
  | .named _ d => d.isTruthy
  | .knot _ => true

/-! ## Texts -/

mutual

/-- Whether a value has a text, given which knots have one: every scalar in it has one. -/
def hasTextBy (knot : Knot → Bool) : Data → Bool
  | .scalar s => s.hasText
  | .list xs => haveTextBy knot xs
  | .pair x y => hasTextBy knot x && hasTextBy knot y
  | .set xs => haveTextBy knot xs
  | .map m => entriesHaveTextBy knot m
  | .named _ d => hasTextBy knot d
  | .knot k => knot k

/-- Whether all items of a list have texts. -/
def haveTextBy (knot : Knot → Bool) : List Data → Bool
  | [] => true
  | x :: xs => hasTextBy knot x && haveTextBy knot xs

/-- Whether all entries of a map have texts. -/
def entriesHaveTextBy (knot : Knot → Bool) : List (Data × Data) → Bool
  | [] => true
  | (k, v) :: m => hasTextBy knot k && hasTextBy knot v && entriesHaveTextBy knot m

end

/-- Whether a value has a text. -/
def hasText (d : Data) : Bool := d.hasTextBy fun k => hasTextBy (fun _ => true) (unrolled k)

mutual

/-- The text of a value inside a list or a message, given the texts of knots. -/
def shownBy (knot : Knot → String) : Data → String
  | .scalar s => s.shown
  | .list xs => "[" ++ ", ".intercalate (shownItemsBy knot xs) ++ "]"
  | .pair x y => "(" ++ shownBy knot x ++ ", " ++ shownBy knot y ++ ")"
  | .set [] => "set()"
  | .set (x :: xs) => "\x7b" ++ ", ".intercalate (shownItemsBy knot (x :: xs)) ++ "\x7d"
  | .map m => "\x7b" ++ ", ".intercalate (shownEntriesBy knot m) ++ "\x7d"
  | .named _ d => shownBy knot d
  | .knot k => knot k

/-- The texts of the items of a list. -/
def shownItemsBy (knot : Knot → String) : List Data → List String
  | [] => []
  | x :: xs => shownBy knot x :: shownItemsBy knot xs

/-- The texts of the entries of a map. -/
def shownEntriesBy (knot : Knot → String) : List (Data × Data) → List String
  | [] => []
  | (k, v) :: m => (shownBy knot k ++ ": " ++ shownBy knot v) :: shownEntriesBy knot m

end

/-- The text of a value inside a list or a message. A collection that is met inside itself is shown
by three points. -/
def shown (d : Data) : String := d.shownBy fun k => shownBy Knot.mark (unrolled k)

/-- The text of a value where it is interpolated: a text stands as it is. -/
def interpolated : Data → String
  | .scalar s => s.interpolated
  | .named _ d => d.interpolated
  | d => d.shown

/-- How a cell is spelled. -/
def cellSpelling : Data → String
  | .scalar s => s.cellSpelling
  | .named _ d => d.cellSpelling
  | d => d.shown

/-- The text of a cell. A cell in which the numeral of an integer is too long has none. -/
def cellText? (d : Data) : Option String := if d.hasText then some d.cellSpelling else none

/-- The text of a cell, empty when it has none. -/
def cellText (d : Data) : String := d.cellText?.getD ""

/-! ## Collections that contain themselves -/

mutual

/-- Whether some collection in a value contains itself. -/
def isEndless : Data → Bool
  | .scalar _ => false
  | .list xs => someEndless xs
  | .pair x y => isEndless x || isEndless y
  | .set _ => false
  | .map m => someValueEndless m
  | .named _ d => isEndless d
  | .knot _ => true

/-- Whether some collection in the items of a list contains itself. -/
def someEndless : List Data → Bool
  | [] => false
  | x :: xs => isEndless x || someEndless xs

/-- Whether some collection in the values of a map contains itself. -/
def someValueEndless : List (Data × Data) → Bool
  | [] => false
  | (_, v) :: m => isEndless v || someValueEndless m

end

end Data

end SurveyChecks
