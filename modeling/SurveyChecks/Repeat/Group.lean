import SurveyChecks.Note
import SurveyChecks.Repeat.Pairing

/-!
# Repeat groups

The groups of a form, numbered in the order of their opening rows, and the group that a question
belongs to: the innermost one around it.
-/

namespace SurveyChecks

open SurveyChecks.Text

/-- A repeat group: the rows from its opening to its closing row. -/
structure RepeatGroup where
  /-- The number of the group, from one. -/
  index : Int
  /-- The order of the opening row. -/
  first : Int
  /-- The order of the closing row. -/
  last : Int
  /-- The name of the dataset that the group becomes. -/
  dataset : String
  /-- The name of the opening row. -/
  opener : String
  deriving DecidableEq, Repr, Inhabited

namespace RepeatGroup

/-- Whether a question of the given order lies in the group. -/
def contains (g : RepeatGroup) (order : Int) : Bool :=
  decide (g.first ≤ order) && decide (order ≤ g.last)

/-- How far the closing row is from the opening row. -/
def span (g : RepeatGroup) : Int := g.last - g.first

/-! ## The groups of a form -/

/-- The last question of an order. -/
def questionAt? (qs : List Question) (order : Int) : Option Question :=
  qs.reverse.find? (·.order == order)

/-- The name of the dataset of a group opened by `q`: its label, or its name when it has none. -/
def datasetNameOf (q : Question) : String := if q.workingLabel = "" then q.name else q.workingLabel

/-- The group between two orders. -/
def between (qs : List Question) (index : Int) (bounds : Int × Int) : RepeatGroup :=
  let opening := (questionAt? qs bounds.1).getD default
  ⟨index, bounds.1, bounds.2, datasetNameOf opening, opening.name⟩

/-- The groups of the questions. -/
def resolve (qs : List Question) : Except FormError (List RepeatGroup) := do
  let pairs ← Repeat.pair (Repeat.markers .opening qs) (Repeat.markers .closing qs)
  return (pairs.zipIdx 1).map fun (bounds, n) => between qs (n : Nat) bounds

/-- The note about a group that was found. -/
def note (g : RepeatGroup) : Note :=
  ⟨.debug, s!"Repeat group {g.index}: rows {g.first}-{g.last} -> {g.dataset}"⟩

/-- The notes that finding the groups makes. -/
def resolveNotes (qs : List Question) : List Note :=
  match resolve qs with
  | .ok gs => gs.map note
  | .error _ => []

/-! ## The group of a question -/

/-- The index of the innermost group around an order: the greatest of the groups that contain it. -/
def innermost? (gs : List RepeatGroup) (order : Int) : Option Int :=
  ((gs.filter (·.contains order)).map (·.index)).max?

/-- Questions with their groups. -/
def assign (gs : List RepeatGroup) (qs : List Question) : List Question :=
  qs.map fun q => { q with group := innermost? gs q.order }

end RepeatGroup

end SurveyChecks
