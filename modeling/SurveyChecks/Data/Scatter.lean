import SurveyChecks.Data.Scalar

/-!
# The order of sets

A set has no first element; its elements are listed in the order of their slots in a table. A number
has a mark, which equal numbers share, and the mark tells the slot, or where to look on when the slot
is taken. Values other than numbers are listed as they were given.
-/

namespace SurveyChecks.Scatter

/-! ## Marks -/

/-- Marks are remainders modulo this number, of which the powers of two repeat after 61 steps. -/
def modulus : Nat := Nat.pow 2 61 - 1

/-- The mark of an infinity. -/
def infiniteMark : Nat := 314159

/-- A mark with its sign; no mark is the opposite of one. -/
def signed (negative : Bool) (n : Nat) : Int :=
  if negative then (if n = 1 then -2 else -n) else n

/-- The mark of a number: its remainder. -/
def mark? : Scalar → Option Int
  | .bool b => some (if b then 1 else 0)
  | .int i => some (signed (decide (i < 0)) (i.natAbs % modulus))
  | .real (.finite negative s e) =>
    some (signed negative (s * Nat.pow 2 (e % 61).toNat % modulus))
  | .real (.infinite negative) => some (signed negative infiniteMark)
  | _ => none

/-- A mark as a word of 64 bits. -/
def word (mark : Int) : Nat := (mark % (Nat.pow 2 64 : Nat)).toNat

/-! ## Slots -/

/-- The number of slots for so many elements: a power of two, more than twice as many unless they are
few. -/
def slotCount (n : Nat) : Nat := if n < 5 then 8 else Nat.pow 2 (Nat.log2 (2 * n) + 1)

/-- How many slots beside a slot are looked at before those further away. -/
def reach : Nat := 9

/-- The slot from which a search that failed around a slot goes on; the higher bits of the word come
in by and by. -/
def nextSlot (count slot rest : Nat) : Nat := (5 * slot + 1 + rest) % count

/-- The first free slot around `slot` or further away. When `rest` is used up the search visits every
slot, so as much `fuel` as there are slots and bits is enough. -/
def freeSlot (count : Nat) (taken : List Nat) : (fuel : Nat) → (slot rest : Nat) → Nat
  | 0, slot, _ => slot
  | fuel + 1, slot, rest =>
    let near := if slot + reach < count then List.range' slot (reach + 1) else [slot]
    match near.find? fun s => !taken.contains s with
    | some s => s
    | none => freeSlot count taken fuel (nextSlot count slot (rest / 32)) (rest / 32)

/-- Puts an element with a mark into a table, which is given by its slots. -/
def place {α : Type} (count : Nat) (table : List (Nat × α)) : Int × α → List (Nat × α)
  | (mark, a) =>
    let w := word mark
    let slot := freeSlot count (table.map (·.1)) (count + 64) (w % count) w
    table ++ [(slot, a)]

/-- The elements of a set in order. -/
def order {α : Type} (elements : List (Scalar × α)) : List α :=
  match elements.mapM fun (s, a) => (mark? s).map (·, a) with
  | none => elements.map (·.2)
  | some marked =>
    let table := marked.foldl (place (slotCount elements.length)) []
    (table.mergeSort fun x y => x.1 ≤ y.1).map (·.2)

end SurveyChecks.Scatter
