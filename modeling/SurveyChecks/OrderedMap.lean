/-!
# Ordered maps

Association lists in the order of first insertion. Inserting under a key that is already there keeps
the key and its place and replaces the value, so a map built by insertions has each key once.
-/

namespace SurveyChecks

/-- Pairs of a key and a value in the order of first insertion. -/
abbrev OrderedMap (κ : Type u) (α : Type v) := List (κ × α)

namespace OrderedMap

variable {κ : Type u} {α : Type v} [BEq κ]

/-- The value under a key. -/
def get? (m : OrderedMap κ α) (k : κ) : Option α := (m.find? (·.1 == k)).map (·.2)

/-- Whether the key is present. -/
def hasKey (m : OrderedMap κ α) (k : κ) : Bool := m.any (·.1 == k)

/-- The keys in order. -/
def keys (m : OrderedMap κ α) : List κ := m.map (·.1)

/-- Puts `f` of the present value, if any, under the key. -/
def update (f : Option α → α) (k : κ) : OrderedMap κ α → OrderedMap κ α
  | [] => [(k, f none)]
  | (k', v) :: m => if k' == k then (k', f (some v)) :: m else (k', v) :: update f k m

/-- Puts a value under the key, at its present place or at the end. -/
def insert (m : OrderedMap κ α) (k : κ) (v : α) : OrderedMap κ α := update (fun _ => v) k m

/-- The map of pairs inserted in turn: of several under one key the last value counts. -/
def ofPairs (ps : List (κ × α)) : OrderedMap κ α := ps.foldl (fun m p => m.insert p.1 p.2) []

/-- How often each value occurs, in the order of first occurrence. -/
def tally (ks : List κ) : OrderedMap κ Nat :=
  ks.foldl (fun m k => update (fun n => n.getD 0 + 1) k m) []

/-- The values in groups of one key each, in the order of first occurrence. -/
def groupBy (key : α → κ) (xs : List α) : OrderedMap κ (List α) :=
  xs.foldl (fun m x => update (fun ys => ys.getD [] ++ [x]) (key x) m) []

/-! ## Laws -/

@[simp] theorem get?_nil (k : κ) : get? ([] : OrderedMap κ α) k = none := rfl

theorem get?_cons (k' : κ) (v : α) (m : OrderedMap κ α) (k : κ) :
    get? ((k', v) :: m) k = if k' == k then some v else get? m k := by
  unfold get?
  by_cases h : k' == k <;> simp [h]

end OrderedMap

end SurveyChecks
