import SurveyChecks.Data.Scalar

/-!
# Tables of parts

A document may use a value at several places, and a collection may contain itself. Such values are
no trees: they are written down as a table of parts, in which a collection gives its own parts by
their places. What stands at a place goes by a name, which is the number of the place counted from
the first name of the table; tables with names of their own have no value in common.
-/

namespace SurveyChecks

/-- A part of a value: what stands at a place of the table. -/
inductive Part where
  /-- A value without parts. -/
  | scalar (s : Scalar)
  /-- A list of the parts at the given places. -/
  | list (items : List Nat)
  /-- The pair of the parts at two places. -/
  | pair (first second : Nat)
  /-- A set of the parts at the given places. -/
  | set (elements : List Nat)
  /-- A map from parts to parts. -/
  | map (entries : List (Nat × Nat))
  deriving Inhabited

/-- The parts of values by place. -/
structure Table where
  /-- The name of what stands at the first place. -/
  first : Nat
  /-- The parts. -/
  parts : Array Part
  deriving Inhabited

namespace Table

/-- The part at a place; nothing where the table has ended. -/
def part (t : Table) (i : Nat) : Part := (t.parts[i]?).getD (.scalar .null)

/-- The name of what stands at a place. -/
def name (t : Table) (i : Nat) : Nat := t.first + i

end Table

/-- A value that is not a tree: a place of a table. -/
structure Knot where
  /-- The table. -/
  table : Table
  /-- The place of the value. -/
  root : Nat
  deriving Inhabited

namespace Knot

/-- The name of a knot. -/
def name (k : Knot) : Nat := k.table.name k.root

/-- The text of a collection that is met inside itself. -/
def mark (k : Knot) : String :=
  match k.table.part k.root with
  | .pair .. => "(...)"
  | .set _ | .map _ => "\x7b...\x7d"
  | _ => "[...]"

end Knot

end SurveyChecks
