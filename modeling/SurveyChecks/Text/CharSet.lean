/-!
# Sets of characters

A large character class is given by its boundaries: the ascending code points at which membership
changes, outside first. Membership is then one walk along the boundaries, which keeps the tables of
the classes short (two numbers a range) and the test a plain recursion.
-/

namespace SurveyChecks.Text

/-- A set of characters, given by the code points at which membership changes. -/
structure CharSet where
  /-- Ascending boundaries in rows: the first enters the set, the next leaves it, and so on. -/
  rows : List (List Nat)

namespace CharSet

/-- Whether an odd number of leading boundaries is at or below `n`. -/
def inside : List Nat → Nat → Bool
  | [], _ => false
  | b :: bs, n => if n < b then false else !inside bs n

/-- All boundaries, in order. -/
def boundaries (s : CharSet) : List Nat := s.rows.flatten

/-- Membership of a character. -/
def contains (s : CharSet) (c : Char) : Bool := inside s.boundaries c.toNat

end CharSet

end SurveyChecks.Text
