import SurveyChecks.Form.Question

/-!
# Pairing the rows of repeat groups

A repeat group is opened by one row and closed by a later one. The opening rows are visited from the
last to the first, and each takes the nearest closing row after it that is still free.
-/

namespace SurveyChecks

/-- The two kinds of rows that bound a repeat group. -/
inductive MarkerKind where
  /-- The row that opens a group. -/
  | opening
  /-- The row that closes a group. -/
  | closing
  deriving DecidableEq, Repr

/-- The type of the rows of a kind. -/
def MarkerKind.word : MarkerKind → String
  | .opening => Question.beginRepeat
  | .closing => Question.endRepeat

namespace Repeat

/-- The kind of marker that a question is, if it is one. -/
def markerKind? (q : Question) : Option MarkerKind :=
  if q.base = Question.beginRepeat then some .opening
  else if q.base = Question.endRepeat then some .closing
  else none

/-- The orders of the markers of a kind, ascending. -/
def markers (kind : MarkerKind) (qs : List Question) : List Int :=
  ((Question.inOrder qs).filter fun q => markerKind? q == some kind).map (·.order)

/-- The pairs of the opening orders, with the closing orders that stay free. -/
def claim (closings : List Int) : List Int → Except FormError (List (Int × Int) × List Int)
  | [] => .ok ([], closings)
  | b :: bs => do
    let (pairs, free) ← claim closings bs
    match free.find? (b < ·) with
    | some e => return ((b, e) :: pairs, free.eraseP (b < ·))
    | none => throw (.unclosedRepeat b)

/-- Pairs opening with closing orders, in the sequence of the opening ones. -/
def pair (openings closings : List Int) : Except FormError (List (Int × Int)) :=
  if openings.length ≠ closings.length then
    .error (.unbalancedRepeats openings.length closings.length)
  else (claim closings openings).map (·.1)

end Repeat

end SurveyChecks
