import SurveyChecks.Data.Basic
import SurveyChecks.Data.Fault

/-!
# Views of values

A value as what an operation needs: as its elements or as its entries. A knot is seen as the
collection that it opens into.
-/

namespace SurveyChecks.Data

/-- The elements of a value: the items of a list, a pair or a set, the keys of a map, the characters
of a text, the numbers of bytes. -/
def elements (d : Data) : Except DataFault (List Data) :=
  match d.opened with
  | .list xs => .ok xs
  | .pair x y => .ok [x, y]
  | .set xs => .ok xs
  | .map m => .ok (m.map fun (k, _) => k)
  | .scalar (.text s) => .ok (s.toList.map fun c => .text c.toString)
  | .scalar (.bytes bs) => .ok (bs.map fun b => .int b.toNat)
  | _ => .error .notIterable

/-- The elements of a value; one that counts as not given has none. -/
def givenElements (d : Data) : Except DataFault (List Data) :=
  if d.isTruthy then d.elements else .ok []

/-- The entries of a map. -/
def entries (d : Data) : Except DataFault (List (Data × Data)) :=
  match d.opened with
  | .map m => .ok m
  | _ => .error .notAMap

end SurveyChecks.Data
