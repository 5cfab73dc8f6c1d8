import SurveyChecks.Data.Basic

/-!
# Comparison of values that contain themselves

Two values are compared part by part, up to the first difference; a value is the same as itself
without a look at its parts. A comparison that comes back to the two values that it is comparing
goes on without end.
-/

namespace SurveyChecks.Data

mutual

/-- A number of steps that no way into a value takes more of. -/
def extent : Data → Nat
  | .scalar _ => 1
  | .list xs => 1 + extents xs
  | .pair x y => 1 + extent x + extent y
  | .set xs => 1 + extents xs
  | .map m => 1 + entryExtents m
  | .named _ d => extent d
  | .knot k => k.table.parts.size + 1

/-- The number of steps for a list. -/
def extents : List Data → Nat
  | [] => 0
  | x :: xs => extent x + extents xs

/-- The number of steps for a map. -/
def entryExtents : List (Data × Data) → Nat
  | [] => 0
  | (k, v) :: m => extent k + extent v + entryExtents m

end

/-- Compares pairs in turn, up to the first that is not the same. -/
def allSame? {α : Type} (compare : α → α → Option Bool) : List (α × α) → Option Bool
  | [] => some true
  | (x, y) :: rest =>
    match compare x y with
    | some true => allSame? compare rest
    | r => r

/-- Compares two lists of the same length item by item. -/
def listsSame? {α : Type} (compare : α → α → Option Bool) (xs ys : List α) : Option Bool :=
  if xs.length = ys.length then allSame? compare (xs.zip ys) else some false

/-- Compares the entries of a map with those of `n` in turn. -/
def entriesSame? (compare : Data → Data → Option Bool) (n : List (Data × Data)) :
    List (Data × Data) → Option Bool
  | [] => some true
  | (k, v) :: m =>
    match (OrderedMap.get? n k).map (compare v) with
    | some (some true) => entriesSame? compare n m
    | some r => r
    | none => some false

/-- Whether two values are the same, inside the pairs of values that are being compared; `none` when
there is no end. No pair of names is entered twice, so as much `fuel` as there are pairs is enough.
-/
def compareInside : (fuel : Nat) → (around : List (Nat × Nat)) → Data → Data → Option Bool
  | 0, _, _, _ => none
  | fuel + 1, around, a, b =>
    let inner (around : List (Nat × Nat)) : Option Bool :=
      match a.opened, b.opened with
      | .list xs, .list ys => listsSame? (compareInside fuel around) xs ys
      | .pair x y, .pair u v => listsSame? (compareInside fuel around) [x, y] [u, v]
      | .map m, .map n =>
        if m.length = n.length then entriesSame? (compareInside fuel around) n m else some false
      | a, b => some (a == b)
    match a.name?, b.name? with
    | some m, some n =>
      if m = n then some true else if around.contains (m, n) then none else inner ((m, n) :: around)
    | _, _ => inner around

/-- Whether two values are the same; `none` when the comparison has no end. -/
def same? (a b : Data) : Option Bool :=
  if a.isEndless && b.isEndless then compareInside ((a.extent + 1) * (b.extent + 1) + 1) [] a b
  else some (a == b)

end SurveyChecks.Data
