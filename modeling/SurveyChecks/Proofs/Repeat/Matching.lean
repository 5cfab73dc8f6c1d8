import Mathlib.Data.List.Sort
import SurveyChecks.Repeat.Pairing

/-!
# Matching markers from the right

Opening rows claim closing rows by comparing orders. Along the sequence of all markers the same
pairing needs no comparison: read from the right, a closing marker is put in front of the free ones,
and an opening marker takes the foremost of them. `Matched` is this reading as a relation, and
`claim_spec` says that `Repeat.claim` computes it or names the marker at which the reading is stuck.
-/

namespace SurveyChecks

/-- A row that opens or closes a repeat group, with its place. -/
structure Marker where
  /-- Whether the row opens or closes. -/
  kind : MarkerKind
  /-- The order of the row. -/
  order : Int
  deriving DecidableEq, Repr

namespace Marker

/-- The markers stand in strictly ascending order. -/
def Ascending (ms : List Marker) : Prop := ms.Pairwise (·.order < ·.order)

/-- The orders of the markers of a kind. -/
def orders (kind : MarkerKind) (ms : List Marker) : List Int :=
  (ms.filter (·.kind == kind)).map (·.order)

/-- The number of markers of a kind. -/
def count (kind : MarkerKind) (ms : List Marker) : Nat := (orders kind ms).length

section Views

variable {kind : MarkerKind} {o : Int} {ms ms' : List Marker}

@[simp] theorem orders_nil : orders kind [] = [] := rfl

@[simp] theorem orders_cons_self : orders kind (⟨kind, o⟩ :: ms) = o :: orders kind ms := by
  simp [orders]

@[simp] theorem orders_closing_cons_opening :
    orders .closing (⟨.opening, o⟩ :: ms) = orders .closing ms := rfl

@[simp] theorem orders_opening_cons_closing :
    orders .opening (⟨.closing, o⟩ :: ms) = orders .opening ms := rfl

@[simp] theorem orders_append : orders kind (ms ++ ms') = orders kind ms ++ orders kind ms' := by
  simp [orders]

@[simp] theorem orders_map_self (os : List Int) : orders kind (os.map (⟨kind, ·⟩)) = os := by
  simp [orders, List.filter_map, Function.comp_def]

theorem orders_map_of_ne {kind' : MarkerKind} (h : kind' ≠ kind) (os : List Int) :
    orders kind (os.map (⟨kind', ·⟩)) = [] := by
  simp [orders, List.filter_map, Function.comp_def, h]

@[simp] theorem count_nil : count kind [] = 0 := rfl

@[simp] theorem count_cons_self : count kind (⟨kind, o⟩ :: ms) = count kind ms + 1 := by
  simp [count]

@[simp] theorem count_closing_cons_opening :
    count .closing (⟨.opening, o⟩ :: ms) = count .closing ms := rfl

@[simp] theorem count_opening_cons_closing :
    count .opening (⟨.closing, o⟩ :: ms) = count .opening ms := rfl

@[simp] theorem count_append : count kind (ms ++ ms') = count kind ms + count kind ms' := by
  simp [count]

theorem mem_orders : o ∈ orders kind ms ↔ ⟨kind, o⟩ ∈ ms := by
  constructor
  · intro h
    obtain ⟨⟨k, p⟩, hm, rfl⟩ := List.mem_map.mp h
    obtain ⟨hm, hk⟩ := List.mem_filter.mp hm
    have hk' : k = kind := by simpa using hk
    rw [← hk']
    exact hm
  · intro h
    exact List.mem_map.mpr ⟨⟨kind, o⟩, List.mem_filter.mpr ⟨h, by simp⟩, rfl⟩

theorem Ascending.lt_of_mem {m : Marker} (h : Ascending (m :: ms)) :
    o ∈ orders kind ms → m.order < o := by
  intro ho
  exact (List.pairwise_cons.mp h).1 _ (mem_orders.mp ho)

theorem Ascending.tail {m : Marker} (h : Ascending (m :: ms)) : Ascending ms :=
  (List.pairwise_cons.mp h).2

theorem Ascending.pairwise_orders (h : Ascending ms) : (orders kind ms).Pairwise (· < ·) :=
  (h.filter _).map _ fun _ _ hab => hab

/-- In an ascending sequence the markers before one have smaller and those behind it greater
orders. -/
theorem Ascending.split {pre post : List Marker} {m : Marker}
    (h : Ascending (pre ++ m :: post)) (kind : MarkerKind) :
    (∀ o ∈ orders kind pre, o < m.order) ∧ (∀ o ∈ orders kind post, m.order < o) := by
  obtain ⟨-, htail, hcross⟩ := List.pairwise_append.mp h
  refine ⟨fun o ho => ?_, fun o ho => Ascending.lt_of_mem htail ho⟩
  exact hcross _ (mem_orders.mp ho) _ (List.mem_cons_self ..)

end Views

end Marker

namespace Repeat

open Marker

/-- The markers, read from the right, give the pairs `ps`, and the closings `free` stay free. -/
inductive Matched : List Marker → List (Int × Int) → List Int → Prop where
  /-- No marker gives no pair. -/
  | nil : Matched [] [] []
  /-- A closing marker stays free for the markers before it. -/
  | closing {ms ps free} (e : Int) (h : Matched ms ps free) :
      Matched (⟨.closing, e⟩ :: ms) ps (e :: free)
  /-- An opening marker takes the foremost free closing. -/
  | opening {ms ps free e} (b : Int) (h : Matched ms ps (e :: free)) :
      Matched (⟨.opening, b⟩ :: ms) ((b, e) :: ps) free

/-- The opening marker `b` finds no free closing: all closings behind it are taken. -/
def StuckAt (ms : List Marker) (b : Int) : Prop :=
  ∃ pre post ps, ms = pre ++ ⟨.opening, b⟩ :: post ∧ Matched post ps []

/-! ## What a matching consists of -/

section Shape

variable {ms ms' : List Marker} {ps ps' : List (Int × Int)} {free free' : List Int}

theorem Matched.map_fst (h : Matched ms ps free) : ps.map (·.1) = orders .opening ms := by
  induction h with
  | nil => rfl
  | closing e h ih =>
    rw [orders_opening_cons_closing]
    exact ih
  | opening b h ih => rw [List.map_cons, orders_cons_self, ih]

theorem Matched.free_sublist (h : Matched ms ps free) : free.Sublist (orders .closing ms) := by
  induction h with
  | nil => exact List.Sublist.slnil
  | closing e h ih =>
    rw [orders_cons_self]
    exact ih.cons_cons e
  | opening b h ih =>
    rw [orders_closing_cons_opening]
    exact (List.sublist_cons_self _ _).trans ih

theorem Matched.perm_closings (h : Matched ms ps free) :
    (ps.map (·.2) ++ free).Perm (orders .closing ms) := by
  induction h with
  | nil => exact List.Perm.refl _
  | closing e h ih =>
    rw [orders_cons_self]
    exact List.perm_middle.trans (ih.cons e)
  | opening b h ih =>
    -- the closing that is taken moves from the free ones to the pairs
    rw [orders_closing_cons_opening, List.map_cons, List.cons_append]
    exact List.perm_middle.symm.trans ih

theorem Matched.count_closing (h : Matched ms ps free) :
    count .closing ms = count .opening ms + free.length := by
  have hp := h.perm_closings.length_eq
  have ho := congrArg List.length h.map_fst
  simp only [List.length_append, List.length_map] at hp ho
  simp only [count]
  omega

theorem Matched.unique (h : Matched ms ps free) (h' : Matched ms ps' free') :
    ps = ps' ∧ free = free' := by
  induction h generalizing ps' free' with
  | nil => cases h'; exact ⟨rfl, rfl⟩
  | closing e h ih =>
    cases h' with
    | closing _ h' =>
      obtain ⟨hps, hfree⟩ := ih h'
      exact ⟨hps, by rw [hfree]⟩
  | opening b h ih =>
    cases h' with
    | opening _ h' =>
      obtain ⟨hps, hfree⟩ := ih h'
      obtain ⟨he, hf⟩ := List.cons.inj hfree
      exact ⟨by rw [hps, he], hf⟩

/-- The sequences can be joined: what the second leaves free stays free behind the first. -/
theorem Matched.append (h : Matched ms ps free) (h' : Matched ms' ps' free') :
    Matched (ms ++ ms') (ps ++ ps') (free ++ free') := by
  induction h with
  | nil => exact h'
  | closing e h ih => exact .closing e ih
  | opening b h ih => exact .opening b ih

/-- The end of a matched sequence is matched. -/
theorem Matched.of_append {pre : List Marker} (h : Matched (pre ++ ms) ps free) :
    ∃ ps' free', Matched ms ps' free' := by
  induction pre generalizing ps free with
  | nil => exact ⟨ps, free, h⟩
  | cons m pre ih =>
    cases h with
    | closing e h => exact ih h
    | opening b h => exact ih h

/-- Matching does not compare orders: renaming them renames the result. -/
theorem Matched.map (f : Int → Int) (h : Matched ms ps free) :
    Matched (ms.map fun m => ⟨m.kind, f m.order⟩) (ps.map fun p => (f p.1, f p.2))
      (free.map f) := by
  induction h with
  | nil => exact .nil
  | closing e h ih => exact .closing (f e) ih
  | opening b h ih => exact .opening (f b) ih

end Shape

/-! ## Claims by order -/

section Claim

variable {ms : List Marker} {ps : List (Int × Int)} {bs cs free : List Int} {b e : Int}

theorem claim_cons_of_ok (h : claim cs bs = .ok (ps, e :: free)) (hb : b < e) :
    claim cs (b :: bs) = .ok ((b, e) :: ps, free) := by
  simp [claim, h, bind, Except.bind, hb, pure, Except.pure]

theorem claim_cons_of_none_free (h : claim cs bs = .ok (ps, [])) :
    claim cs (b :: bs) = .error (.unclosedRepeat b) := by
  simp [claim, h, bind, Except.bind, throw, throwThe, MonadExceptOf.throw]

theorem claim_cons_of_error {x : FormError} (h : claim cs bs = .error x) :
    claim cs (b :: bs) = .error x := by
  simp [claim, h, bind, Except.bind]

/-- A closing before all openings is taken by none of them. -/
theorem claim_cons_closing (h : ∀ b ∈ bs, e < b) :
    claim (e :: cs) bs = (claim cs bs).map fun r => (r.1, e :: r.2) := by
  induction bs with
  | nil => rfl
  | cons b bs ih =>
    have heb : ¬ b < e := by
      have := h b (List.mem_cons_self ..)
      omega
    have ih' := ih fun b' hb' => h b' (List.mem_cons_of_mem _ hb')
    cases hc : claim cs bs with
    | error x =>
      rw [hc] at ih'
      rw [claim_cons_of_error hc, claim_cons_of_error ih']
      rfl
    | ok r =>
      rw [hc] at ih'
      simp only [claim, ih', hc, Except.map, bind, Except.bind]
      simp only [List.find?_cons, heb, decide_false, List.eraseP_cons, cond_false]
      cases r.2.find? (b < ·) <;> rfl

/-- Claiming by order is matching from the right; where it fails, the opening marker that it names
is stuck. -/
theorem claim_spec (h : Ascending ms) :
    (∃ ps free, claim (orders .closing ms) (orders .opening ms) = .ok (ps, free) ∧
      Matched ms ps free) ∨
    (∃ b, claim (orders .closing ms) (orders .opening ms) = .error (.unclosedRepeat b) ∧
      StuckAt ms b) := by
  induction ms with
  | nil => exact Or.inl ⟨[], [], rfl, .nil⟩
  | cons m ms ih =>
    obtain ⟨kind, o⟩ := m
    have hlt : ∀ k, ∀ o' ∈ orders k ms, o < o' := fun k o' ho' => h.lt_of_mem ho'
    cases kind with
    | closing =>
      rw [orders_cons_self, orders_opening_cons_closing, claim_cons_closing (hlt .opening)]
      rcases ih h.tail with ⟨ps, free, hc, hm⟩ | ⟨b, hc, pre, post, ps, rfl, hm⟩
      · exact Or.inl ⟨ps, o :: free, by rw [hc]; rfl, .closing o hm⟩
      · exact Or.inr ⟨b, by rw [hc]; rfl, ⟨.closing, o⟩ :: pre, post, ps, rfl, hm⟩
    | opening =>
      rw [orders_cons_self, orders_closing_cons_opening]
      rcases ih h.tail with ⟨ps, free, hc, hm⟩ | ⟨b, hc, pre, post, ps, rfl, hm⟩
      · cases free with
        | nil => exact Or.inr ⟨o, claim_cons_of_none_free hc, [], ms, ps, rfl, hm⟩
        | cons e free =>
          -- the foremost free closing lies behind the marker, so it is the one that is claimed
          have hoe : o < e := hlt .closing e (hm.free_sublist.subset (List.mem_cons_self ..))
          exact Or.inl ⟨(o, e) :: ps, free, claim_cons_of_ok hc hoe, .opening o hm⟩
      · exact Or.inr ⟨b, claim_cons_of_error hc, ⟨.opening, o⟩ :: pre, post, ps, rfl, hm⟩

end Claim

end Repeat

end SurveyChecks
