import SurveyChecks.Proofs.Repeat.Bracket
import SurveyChecks.Repeat.Group

/-!
# Finding the groups of questions

The markers of questions with distinct orders, and the groups that `RepeatGroup.resolve` makes of
their matching.
-/

namespace SurveyChecks

namespace Question

variable {qs : List Question}

/-- The questions stand in strictly ascending order. -/
def Ascending (qs : List Question) : Prop := qs.Pairwise (·.order < ·.order)

instance (qs : List Question) : Decidable (Ascending qs) :=
  inferInstanceAs (Decidable (qs.Pairwise (·.order < ·.order)))

/-- No two questions have the same order. -/
def DistinctOrders (qs : List Question) : Prop := (qs.map (·.order)).Nodup

theorem inOrder_perm (qs : List Question) : (inOrder qs).Perm qs := List.mergeSort_perm _ _

theorem mem_inOrder {q : Question} : q ∈ inOrder qs ↔ q ∈ qs := (inOrder_perm qs).mem_iff

theorem Ascending.distinctOrders (h : Ascending qs) : DistinctOrders qs :=
  List.pairwise_map.mpr (h.imp fun hab => ne_of_lt hab)

/-- Sorting by distinct orders leaves no two of them equal. -/
theorem ascending_inOrder (h : DistinctOrders qs) : Ascending (inOrder qs) := by
  have hle : (inOrder qs).Pairwise fun a b => a.order ≤ b.order := pairwise_mergeSort_key _ qs
  have hnodup : ((inOrder qs).map (·.order)).Nodup :=
    (((inOrder_perm qs).map _).nodup_iff).mpr h
  exact (hle.and (List.pairwise_map.mp hnodup)).imp fun hab => lt_of_le_of_ne hab.1 hab.2

theorem Ascending.inOrder_eq (h : Ascending qs) : inOrder qs = qs :=
  List.mergeSort_of_pairwise (h.imp fun hab => by simpa using le_of_lt hab)

/-- Sorting looks at orders only. -/
theorem inOrder_map (f : Question → Question) (hf : ∀ q, (f q).order = q.order)
    (qs : List Question) : inOrder (qs.map f) = (inOrder qs).map f :=
  (List.map_mergeSort fun a _ b _ => by rw [hf, hf]).symm

theorem DistinctOrders.eq_of_order_eq (h : DistinctOrders qs) {q q' : Question} (hq : q ∈ qs)
    (hq' : q' ∈ qs) (ho : q.order = q'.order) : q = q' :=
  List.inj_on_of_nodup_map h hq hq' ho

end Question

namespace Repeat

open Marker (orders mem_orders)
open Question (Ascending DistinctOrders inOrder)

variable {qs : List Question} {q : Question}

/-- The marker that a question is, if it is one. -/
def marker? (q : Question) : Option Marker := (markerKind? q).map (⟨·, q.order⟩)

/-- The markers among questions. -/
def markersOf (qs : List Question) : List Marker := qs.filterMap marker?

@[simp] theorem markersOf_nil : markersOf [] = [] := rfl

theorem markersOf_cons_of_marker {kind : MarkerKind} (h : markerKind? q = some kind) :
    markersOf (q :: qs) = ⟨kind, q.order⟩ :: markersOf qs := by
  simp [markersOf, marker?, h]

theorem markersOf_cons_of_other (h : markerKind? q = none) : markersOf (q :: qs) = markersOf qs := by
  simp [markersOf, marker?, h]

theorem markersOf_append (qs qs' : List Question) :
    markersOf (qs ++ qs') = markersOf qs ++ markersOf qs' := by
  simp [markersOf]

theorem exists_of_mem_markersOf {m : Marker} (h : m ∈ markersOf qs) :
    ∃ q ∈ qs, markerKind? q = some m.kind ∧ q.order = m.order := by
  obtain ⟨q, hq, hm⟩ := List.mem_filterMap.mp h
  obtain ⟨kind, hk, rfl⟩ := Option.map_eq_some_iff.mp hm
  exact ⟨q, hq, hk, rfl⟩

/-- A question opens a group just when the first word of its type says so. -/
theorem markerKind?_eq_opening_iff :
    markerKind? q = some .opening ↔ q.base = Question.beginRepeat := by
  unfold markerKind?
  by_cases hopen : q.base = Question.beginRepeat
  · simp [hopen]
  · rw [if_neg hopen]
    split <;> simp [hopen]

theorem markerKind?_eq_closing_iff :
    markerKind? q = some .closing ↔ q.base = Question.endRepeat := by
  unfold markerKind?
  by_cases hopen : q.base = Question.beginRepeat
  · rw [if_pos hopen, hopen]
    decide
  · rw [if_neg hopen]
    split <;> simp [*]

theorem mem_markersOf {kind : MarkerKind} (hq : q ∈ qs) (hk : markerKind? q = some kind) :
    ⟨kind, q.order⟩ ∈ markersOf qs :=
  List.mem_filterMap.mpr ⟨q, hq, by simp [marker?, hk]⟩

/-- Markers stand in the order of their questions. -/
theorem ascending_markersOf (h : Ascending qs) : Marker.Ascending (markersOf qs) := by
  refine List.Pairwise.filterMap marker? ?_ h
  intro q q' hlt m hm m' hm'
  obtain ⟨kind, -, rfl⟩ := Option.map_eq_some_iff.mp hm
  obtain ⟨kind', -, rfl⟩ := Option.map_eq_some_iff.mp hm'
  exact hlt

/-- The orders of the markers of one kind are those of the questions of that kind. -/
theorem orders_markersOf (kind : MarkerKind) (qs : List Question) :
    orders kind (markersOf qs) = (qs.filter fun q => markerKind? q == some kind).map (·.order) := by
  induction qs with
  | nil => rfl
  | cons q qs ih =>
    cases hk : markerKind? q with
    | none => rw [markersOf_cons_of_other hk, ih]; simp [hk]
    | some kind' =>
      rw [markersOf_cons_of_marker hk]
      simp only [orders] at ih
      by_cases hkk : kind' = kind
      · subst hkk; simp [orders, hk, ih]
      · simp [orders, hk, hkk, ih]

theorem markers_eq_orders (kind : MarkerKind) (qs : List Question) :
    markers kind qs = orders kind (markersOf (inOrder qs)) :=
  (orders_markersOf kind _).symm

/-- Questions with distinct orders give two ascending lists of markers without a common order. -/
theorem markers_ascending_disjoint (h : DistinctOrders qs) :
    (∀ kind, (markers kind qs).Pairwise (· < ·)) ∧
      (markers .opening qs).Disjoint (markers .closing qs) := by
  have hasc := ascending_markersOf (Question.ascending_inOrder h)
  refine ⟨fun kind => ?_, ?_⟩
  · rw [markers_eq_orders]
    exact hasc.pairwise_orders
  · rw [markers_eq_orders, markers_eq_orders]
    intro o hopening hclosing
    have hnodup : ((markersOf (inOrder qs)).map (·.order)).Nodup :=
      List.pairwise_map.mpr (hasc.imp fun hab => ne_of_lt hab)
    have := List.inj_on_of_nodup_map hnodup (mem_orders.mp hopening) (mem_orders.mp hclosing) rfl
    simp at this

end Repeat

namespace RepeatGroup

open Question (Ascending DistinctOrders inOrder)
open Repeat (markersOf Matched)

variable {qs : List Question} {ps : List (Int × Int)} {gs : List RepeatGroup}

/-- The question of an order, when no two questions have the same. -/
theorem questionAt?_eq_some_iff (h : DistinctOrders qs) {o : Int} {q : Question} :
    questionAt? qs o = some q ↔ q ∈ qs ∧ q.order = o := by
  unfold questionAt?
  constructor
  · intro hq
    have hmem : q ∈ qs.reverse := List.mem_of_find?_eq_some hq
    exact ⟨by simpa using hmem, by simpa using List.find?_some hq⟩
  · rintro ⟨hq, rfl⟩
    cases hf : qs.reverse.find? (·.order == q.order) with
    | none =>
      have := List.find?_eq_none.mp hf q (by simpa using hq)
      simp at this
    | some q' =>
      have hmem : q' ∈ qs.reverse := List.mem_of_find?_eq_some hf
      have ho : q'.order = q.order := by simpa using List.find?_some hf
      rw [h.eq_of_order_eq (by simpa using hmem) hq ho]

/-- The groups of pairs, numbered from `n`. -/
def numbered (qs : List Question) (n : Nat) (ps : List (Int × Int)) : List RepeatGroup :=
  (ps.zipIdx n).map fun (bounds, n) => between qs (n : Nat) bounds

@[simp] theorem numbered_nil (qs : List Question) (n : Nat) : numbered qs n [] = [] := rfl

@[simp] theorem numbered_cons (qs : List Question) (n : Nat) (p : Int × Int) :
    numbered qs n (p :: ps) = between qs n p :: numbered qs (n + 1) ps := by
  simp [numbered, List.zipIdx_cons]

@[simp] theorem length_numbered (qs : List Question) (n : Nat) :
    (numbered qs n ps).length = ps.length := by
  simp [numbered]

/-- Numbering the pairs does not change them. -/
theorem map_bounds_numbered (qs : List Question) (n : Nat) (ps : List (Int × Int)) :
    (numbered qs n ps).map (fun g => (g.first, g.last)) = ps := by
  induction ps generalizing n with
  | nil => rfl
  | cons p ps ih => simp [between, ih]

/-- The groups are numbered from `n` in the sequence of their pairs. -/
theorem map_index_numbered (qs : List Question) (n : Nat) :
    (numbered qs n ps).map (·.index) = (List.range' n ps.length).map (fun k : Nat => (k : Int)) := by
  induction ps generalizing n with
  | nil => rfl
  | cons p ps ih => simp [between, ih, List.range'_succ]

/-- Finding the groups of questions with distinct orders succeeds just when their markers can be
matched, and numbers the pairs of the matching. -/
theorem resolve_eq_ok_iff (h : DistinctOrders qs) :
    resolve qs = .ok gs ↔
      ∃ ps, Matched (markersOf (inOrder qs)) ps [] ∧ gs = numbered qs 1 ps := by
  have hasc := Repeat.ascending_markersOf (Question.ascending_inOrder h)
  have hpair : ∀ ps, Repeat.pair (Repeat.markers .opening qs) (Repeat.markers .closing qs) =
      .ok ps ↔ Matched (markersOf (inOrder qs)) ps [] := by
    intro ps
    rw [Repeat.markers_eq_orders, Repeat.markers_eq_orders]
    exact Repeat.pair_eq_ok_iff hasc
  unfold resolve
  constructor
  · intro hok
    cases hp : Repeat.pair (Repeat.markers .opening qs) (Repeat.markers .closing qs) with
    | error e => simp [hp, bind, Except.bind] at hok
    | ok ps =>
      simp only [hp, bind, Except.bind, pure, Except.pure, Except.ok.injEq] at hok
      exact ⟨ps, (hpair ps).mp hp, hok.symm⟩
  · rintro ⟨ps, hm, rfl⟩
    simp [(hpair ps).mpr hm, bind, Except.bind, pure, Except.pure, numbered]

end RepeatGroup

end SurveyChecks
