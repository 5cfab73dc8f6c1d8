import SurveyChecks.Data.Basic
import SurveyChecks.Data.Fault

/-!
# Outlines

A value on its way to a YAML text. Where a named value stands for the second time, only its name is
left. The names that are used so are the anchors of the text, in the order in which they are used
for the second time.
-/

namespace SurveyChecks.Yaml

/-- A value as it will be written. -/
inductive Outline where
  /-- A value without parts. -/
  | scalar (name : Option Nat) (s : Scalar)
  /-- A list. -/
  | list (name : Option Nat) (items : List Outline)
  /-- A map, or a set as a map without values. -/
  | map (name : Option Nat) (isSet : Bool) (entries : List (Outline × Outline))
  /-- The name of a value that stands before. -/
  | again (name : Nat)
  deriving Inhabited

namespace Outline

/-- The names met so far. -/
structure Names where
  /-- The names of the values that stand before. -/
  met : List Nat := []
  /-- The names met more than once, in the order of the second time. -/
  repeated : List Nat := []

/-- A step of outlining. -/
abbrev Outlining := StateT Names (Except DataFault)

/-- The greatest number of collections inside one another. -/
def maxDepth : Nat := 328

/-- The name of a value that was met before. -/
def repetition (n : Nat) : Outlining Outline := do
  modify fun s =>
    if s.repeated.contains n then s else { s with repeated := s.repeated ++ [n] }
  return .again n

/-- A value under a name: its outline when the name is new. -/
def underName (n : Nat) (outline : Outlining Outline) : Outlining Outline := do
  if (← get).met.contains n then repetition n
  else
    modify fun s => { s with met := n :: s.met }
    outline

/-- A value without parts. A time of day has no form. -/
def ofScalar (name : Option Nat) (s : Scalar) : Outlining Outline :=
  match s with
  | .time _ => throw .notWritable
  | s => if s.hasText then return .scalar name s else throw .numeralTooLong

mutual

/-- The outline of a value inside so many collections, given those of knots. -/
def ofDataBy (knot : Nat → Knot → Outlining Outline) (name : Option Nat) :
    (depth : Nat) → Data → Outlining Outline
  | depth, .scalar s => if maxDepth < depth + 1 then throw .tooDeep else ofScalar name s
  | depth, .named n d => underName n (ofDataBy knot (some n) depth d)
  | depth, .knot k => knot depth k
  | depth, .list xs => do
    if maxDepth < depth + 1 then throw .tooDeep
    return .list name (← ofItemsBy knot (depth + 1) xs)
  | depth, .pair x y => do
    if maxDepth < depth + 1 then throw .tooDeep
    let first ← ofDataBy knot none (depth + 1) x
    let second ← ofDataBy knot none (depth + 1) y
    return .list name [first, second]
  | depth, .set xs => do
    if maxDepth < depth + 1 then throw .tooDeep
    let items ← ofItemsBy knot (depth + 1) xs
    return .map name true (items.map fun x => (x, .scalar none .null))
  | depth, .map m => do
    if maxDepth < depth + 1 then throw .tooDeep
    return .map name false (← ofEntriesBy knot (depth + 1) m)

/-- The outlines of the items of a list. -/
def ofItemsBy (knot : Nat → Knot → Outlining Outline) :
    (depth : Nat) → List Data → Outlining (List Outline)
  | _, [] => return []
  | depth, x :: xs => do
    let item ← ofDataBy knot none depth x
    return item :: (← ofItemsBy knot depth xs)

/-- The outlines of the entries of a map. -/
def ofEntriesBy (knot : Nat → Knot → Outlining Outline) :
    (depth : Nat) → List (Data × Data) → Outlining (List (Outline × Outline))
  | _, [] => return []
  | depth, (k, v) :: m => do
    let key ← ofDataBy knot none depth k
    let value ← ofDataBy knot none depth v
    return (key, value) :: (← ofEntriesBy knot depth m)

end

/-- The outline of a value, and its anchors. A knot is rolled out up to the collections that are met
inside themselves, whose names stand before. -/
def ofData (d : Data) : Except DataFault (Outline × List Nat) := do
  let rolledOut (depth : Nat) (k : Knot) : Outlining Outline :=
    ofDataBy (fun _ k => repetition k.name) none depth (Data.unrolled k)
  let (o, names) ← (ofDataBy rolledOut none 0 d).run {}
  return (o, names.repeated)

end Outline

end SurveyChecks.Yaml
