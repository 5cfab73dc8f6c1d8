import SurveyChecks.Proofs.Repeat.Resolution

/-!
# Groups are nested or apart

The groups of a form never cross, so the group of greatest index around a question is the innermost
one, and it is the group on top of the stack when the questions are scanned for open groups.
-/

namespace SurveyChecks

namespace Repeat

open Marker (orders mem_orders count)

section Matching

variable {ms : List Marker} {ps : List (Int × Int)} {free : List Int}

theorem Matched.mem_opening (h : Matched ms ps free) {p : Int × Int} (hp : p ∈ ps) :
    p.1 ∈ orders .opening ms := by
  rw [← h.map_fst]
  exact List.mem_map_of_mem hp

theorem Matched.mem_closing (h : Matched ms ps free) {p : Int × Int} (hp : p ∈ ps) :
    p.2 ∈ orders .closing ms :=
  h.perm_closings.subset (List.mem_append_left _ (List.mem_map_of_mem hp))

/-- A pair begins at a question that opens a group. -/
theorem Matched.exists_opener {qs : List Question} (h : Matched (markersOf qs) ps free)
    {p : Int × Int} (hp : p ∈ ps) :
    ∃ q ∈ qs, q.base = Question.beginRepeat ∧ q.order = p.1 := by
  obtain ⟨q, hq, hkind, horder⟩ := exists_of_mem_markersOf (mem_orders.mp (h.mem_opening hp))
  exact ⟨q, hq, markerKind?_eq_opening_iff.mp hkind, horder⟩

/-- A pair ends at a question that closes a group. -/
theorem Matched.exists_closer {qs : List Question} (h : Matched (markersOf qs) ps free)
    {p : Int × Int} (hp : p ∈ ps) :
    ∃ q ∈ qs, q.base = Question.endRepeat ∧ q.order = p.2 := by
  obtain ⟨q, hq, hkind, horder⟩ := exists_of_mem_markersOf (mem_orders.mp (h.mem_closing hp))
  exact ⟨q, hq, markerKind?_eq_closing_iff.mp hkind, horder⟩

/-- The pairs of an ascending sequence: each closing lies behind its opening, of two pairs the one
that is opened later lies behind or inside the other, and no free closing lies inside a pair. -/
structure Nested (ps : List (Int × Int)) (free : List Int) : Prop where
  lt : ∀ p ∈ ps, p.1 < p.2
  pairwise : ps.Pairwise fun p q => p.1 < q.1 ∧ (p.2 < q.1 ∨ q.2 < p.2)
  outside : ∀ p ∈ ps, ∀ e ∈ free, e < p.1 ∨ p.2 < e

theorem Matched.nested (h : Matched ms ps free) (hms : ms.Pairwise (·.order < ·.order)) :
    Nested ps free := by
  induction h with
  | nil => exact ⟨by simp, List.Pairwise.nil, by simp⟩
  | @closing ms ps free e h ih =>
    obtain ⟨hlt, hpair, hout⟩ := ih hms.tail
    refine ⟨hlt, hpair, fun p hp f hf => ?_⟩
    rcases List.mem_cons.mp hf with rfl | hf
    · exact Or.inl (Marker.Ascending.lt_of_mem hms (h.mem_opening hp))
    · exact hout p hp f hf
  | @opening ms ps free e b h ih =>
    obtain ⟨hlt, hpair, hout⟩ := ih hms.tail
    have hbe : b < e :=
      Marker.Ascending.lt_of_mem hms (h.free_sublist.subset (List.mem_cons_self ..))
    have hfree : (e :: free).Pairwise (· < ·) :=
      (Marker.Ascending.pairwise_orders hms.tail).sublist h.free_sublist
    refine ⟨?_, ?_, ?_⟩
    · intro p hp
      rcases List.mem_cons.mp hp with rfl | hp
      · exact hbe
      · exact hlt p hp
    · refine List.pairwise_cons.mpr ⟨fun q hq => ?_, hpair⟩
      refine ⟨Marker.Ascending.lt_of_mem hms (h.mem_opening hq), ?_⟩
      exact hout q hq e (List.mem_cons_self ..)
    · intro p hp f hf
      rcases List.mem_cons.mp hp with rfl | hp
      · exact Or.inr ((List.pairwise_cons.mp hfree).1 f hf)
      · exact hout p hp f (List.mem_cons_of_mem _ hf)

end Matching

/-! ## Scanning for open groups -/

/-- The index of the group that each of the questions belongs to, by a scan with the stack of open
groups: an opening row pushes the next index and belongs to the group that it opens, a closing row
belongs to the group that it closes and pops it, and any other row belongs to the top group. -/
def openGroups (next : Nat) (stack : List Int) : List Question → List (Option Int)
  | [] => []
  | q :: qs =>
    match markerKind? q with
    | some .opening => some (next : Int) :: openGroups (next + 1) ((next : Int) :: stack) qs
    | some .closing => stack.head? :: openGroups next stack.tail qs
    | none => stack.head? :: openGroups next stack qs

end Repeat

namespace RepeatGroup

open Marker (orders mem_orders)
open Question (Ascending DistinctOrders inOrder)
open Repeat (markersOf markerKind? Matched openGroups)

/-- The group lies within another, at both ends strictly. -/
def Inside (g h : RepeatGroup) : Prop := h.first < g.first ∧ g.last < h.last

/-- The groups have no row in common. -/
def Apart (g h : RepeatGroup) : Prop := g.last < h.first ∨ h.last < g.first

/-- The group is opened before another, which lies behind it or inside it. -/
def Before (g h : RepeatGroup) : Prop :=
  g.index < h.index ∧ g.first < h.first ∧ (g.last < h.first ∨ h.last < g.last)

/-! ## The innermost group -/

section Innermost

variable {gs gs' : List RepeatGroup} {g : RepeatGroup} {o i : Int}

theorem contains_iff : g.contains o = true ↔ g.first ≤ o ∧ o ≤ g.last := by
  simp [contains]

theorem innermost?_eq_some_iff :
    innermost? gs o = some i ↔
      (∃ g ∈ gs, g.contains o ∧ g.index = i) ∧ ∀ g ∈ gs, g.contains o → g.index ≤ i := by
  unfold innermost?
  rw [List.max?_eq_some_iff]
  simp only [List.mem_map, List.mem_filter, and_assoc]
  constructor
  · rintro ⟨hmem, hle⟩
    exact ⟨hmem, fun g hg hc => hle _ ⟨g, hg, hc, rfl⟩⟩
  · rintro ⟨hmem, hle⟩
    refine ⟨hmem, ?_⟩
    rintro _ ⟨g, hg, hc, rfl⟩
    exact hle g hg hc

theorem innermost?_eq_none_iff :
    innermost? gs o = none ↔ ∀ g ∈ gs, g.contains o = false := by
  unfold innermost?
  rw [List.max?_eq_none_iff, List.map_eq_nil_iff, List.filter_eq_nil_iff]
  simp

theorem innermost?_congr
    (h : ∀ i, (∃ g ∈ gs, g.contains o ∧ g.index = i) ↔ ∃ g ∈ gs', g.contains o ∧ g.index = i) :
    innermost? gs o = innermost? gs' o := by
  cases hi : innermost? gs' o with
  | none =>
    rw [innermost?_eq_none_iff] at hi ⊢
    intro g hg
    by_contra hc
    obtain ⟨g', hg', hc', -⟩ := (h g.index).mp ⟨g, hg, by simpa using hc, rfl⟩
    rw [hi g' hg'] at hc'
    simp at hc'
  | some i =>
    rw [innermost?_eq_some_iff] at hi ⊢
    refine ⟨(h i).mpr hi.1, fun g hg hc => ?_⟩
    obtain ⟨g', hg', hc', heq⟩ := (h g.index).mp ⟨g, hg, hc, rfl⟩
    rw [← heq]
    exact hi.2 g' hg' hc'

theorem innermost?_cons_of_not_contains (h : g.contains o = false) :
    innermost? (g :: gs) o = innermost? gs o :=
  innermost?_congr fun i => by simp [h]

theorem innermost?_append_left (h : ∀ g ∈ gs', g.contains o = false) :
    innermost? (gs ++ gs') o = innermost? gs o := by
  refine innermost?_congr fun i => ?_
  constructor
  · rintro ⟨g, hg, hc, hi⟩
    rcases List.mem_append.mp hg with hg | hg
    · exact ⟨g, hg, hc, hi⟩
    · rw [h g hg] at hc
      simp at hc
  · rintro ⟨g, hg, hc, hi⟩
    exact ⟨g, List.mem_append_left _ hg, hc, hi⟩

theorem innermost?_append_right (h : ∀ g ∈ gs, g.contains o = false) :
    innermost? (gs ++ gs') o = innermost? gs' o := by
  have hcomm : innermost? (gs ++ gs') o = innermost? (gs' ++ gs) o :=
    innermost?_congr fun i => by simp only [List.mem_append, or_comm]
  rw [hcomm]
  exact innermost?_append_left h

/-- A group around the order counts when no group of greater index is around it. -/
theorem innermost?_cons_of_contains (hg : g.contains o) (hlt : ∀ h ∈ gs, g.index < h.index) :
    innermost? (g :: gs) o = some ((innermost? gs o).getD g.index) := by
  rw [innermost?_eq_some_iff]
  cases hi : innermost? gs o with
  | none =>
    have hnone := innermost?_eq_none_iff.mp hi
    refine ⟨⟨g, List.mem_cons_self .., hg, rfl⟩, fun h hh hc => ?_⟩
    rcases List.mem_cons.mp hh with rfl | hh
    · exact le_rfl
    · rw [hnone h hh] at hc
      simp at hc
  | some i =>
    obtain ⟨⟨h, hh, hc, rfl⟩, hmax⟩ := innermost?_eq_some_iff.mp hi
    refine ⟨⟨h, List.mem_cons_of_mem _ hh, hc, rfl⟩, fun h' hh' hc' => ?_⟩
    rcases List.mem_cons.mp hh' with rfl | hh'
    · exact (hlt h hh).le
    · exact hmax h' hh' hc'

theorem innermost?_append_cons_comm :
    innermost? (gs ++ g :: gs') o = innermost? (g :: gs ++ gs') o :=
  innermost?_congr fun i => by simp only [List.perm_middle.mem_iff, List.cons_append]

end Innermost

/-! ## Groups of a matching -/

section Numbered

variable {qs : List Question} {ps : List (Int × Int)} {free : List Int} {ms : List Marker} {n : Nat}

theorem bounds_mem_of_mem_numbered {g : RepeatGroup} (hg : g ∈ numbered qs n ps) :
    (g.first, g.last) ∈ ps := by
  have := List.mem_map_of_mem (f := fun g : RepeatGroup => (g.first, g.last)) hg
  rwa [map_bounds_numbered] at this

theorem exists_mem_numbered (qs : List Question) (n : Nat) {p : Int × Int} (hp : p ∈ ps) :
    ∃ g ∈ numbered qs n ps, g.first = p.1 ∧ g.last = p.2 := by
  rw [← map_bounds_numbered qs n ps] at hp
  obtain ⟨g, hg, rfl⟩ := List.mem_map.mp hp
  exact ⟨g, hg, rfl, rfl⟩

theorem pairwise_index_numbered : (numbered qs n ps).Pairwise (·.index < ·.index) := by
  refine List.pairwise_map.mp ?_
  rw [map_index_numbered]
  exact pairwise_lt_range'_cast n ps.length

/-- Each group of a matching is opened before those that follow it. -/
theorem pairwise_before (hm : Matched ms ps free) (hms : ms.Pairwise (·.order < ·.order)) :
    (numbered qs n ps).Pairwise Before := by
  refine pairwise_index_numbered.and ?_
  have := (hm.nested hms).pairwise
  rw [← map_bounds_numbered qs n ps] at this
  exact List.pairwise_map.mp this

theorem eq_or_before (hm : Matched ms ps free) (hms : ms.Pairwise (·.order < ·.order))
    {g h : RepeatGroup} (hg : g ∈ numbered qs n ps) (hh : h ∈ numbered qs n ps) :
    g = h ∨ Before g h ∨ Before h g := by
  have hbefore : (numbered qs n ps).Pairwise Before := pairwise_before hm hms
  have hpair := List.pairwise_iff_getElem.mp hbefore
  obtain ⟨i, hi, rfl⟩ := List.getElem_of_mem hg
  obtain ⟨j, hj, rfl⟩ := List.getElem_of_mem hh
  rcases lt_trichotomy i j with hij | rfl | hij
  · exact Or.inr (Or.inl (hpair i j hi hj hij))
  · exact Or.inl rfl
  · exact Or.inr (Or.inr (hpair j i hj hi hij))

theorem Before.apart_or_inside {g h : RepeatGroup} (hb : Before g h) : Apart g h ∨ Inside h g := by
  unfold Before at hb
  unfold Apart Inside
  omega

/-- Of two groups around an order, the one that is opened later lies inside the other. -/
theorem Before.inside {g h : RepeatGroup} {o : Int} (hb : Before g h) (hg : g.contains o)
    (hh : h.contains o) : Inside h g := by
  rw [contains_iff] at hg hh
  unfold Before at hb
  unfold Inside
  omega

theorem exists_bound (qs : List Question) (n : Nat) {kind : MarkerKind} {o : Int}
    (hm : Matched ms ps []) (ho : o ∈ orders kind ms) :
    ∃ g ∈ numbered qs n ps, g.first = o ∨ g.last = o := by
  cases kind with
  | opening =>
    rw [← hm.map_fst] at ho
    obtain ⟨p, hp, rfl⟩ := List.mem_map.mp ho
    obtain ⟨g, hg, hgf, -⟩ := exists_mem_numbered qs n hp
    exact ⟨g, hg, Or.inl hgf⟩
  | closing =>
    rw [← hm.perm_closings.mem_iff, List.append_nil] at ho
    obtain ⟨p, hp, rfl⟩ := List.mem_map.mp ho
    obtain ⟨g, hg, -, hgl⟩ := exists_mem_numbered qs n hp
    exact ⟨g, hg, Or.inr hgl⟩

theorem first_lt_last {g : RepeatGroup} (hm : Matched ms ps free)
    (hms : ms.Pairwise (·.order < ·.order)) (hg : g ∈ numbered qs n ps) : g.first < g.last :=
  (hm.nested hms).lt _ (bounds_mem_of_mem_numbered hg)

theorem bound_unique {g h : RepeatGroup} {o : Int} (hm : Matched ms ps free)
    (hms : ms.Pairwise (·.order < ·.order)) (hg : g ∈ numbered qs n ps)
    (hh : h ∈ numbered qs n ps) (hgo : g.first = o ∨ g.last = o)
    (hho : h.first = o ∨ h.last = o) : g = h := by
  have hglt := first_lt_last hm hms hg
  have hhlt := first_lt_last hm hms hh
  rcases eq_or_before hm hms hg hh with heq | hb | hb
  · exact heq
  · unfold Before at hb
    omega
  · unfold Before at hb
    omega

/-- The innermost group around the row that opens or closes a group is this group. -/
theorem innermost?_bound {g : RepeatGroup} {o : Int} (hm : Matched ms ps free)
    (hms : ms.Pairwise (·.order < ·.order)) (hg : g ∈ numbered qs n ps)
    (ho : g.first = o ∨ g.last = o) : innermost? (numbered qs n ps) o = some g.index := by
  have hlt := first_lt_last hm hms hg
  have hgo : g.contains o := contains_iff.mpr (by omega)
  rw [innermost?_eq_some_iff]
  refine ⟨⟨g, hg, hgo, rfl⟩, fun h hh hho => ?_⟩
  rcases eq_or_before hm hms hg hh with rfl | hb | hb
  · exact le_rfl
  · -- a group inside this one contains neither of its bounds
    have hinside := hb.inside hgo hho
    rw [contains_iff] at hho
    unfold Inside at hinside
    omega
  · exact hb.1.le

/-- Where no group of `gs` is open, the innermost group is the last opened one of those that are
still open. -/
theorem innermost?_append_of_open {g : RepeatGroup} {outer gs : List RepeatGroup} {o : Int}
    (hg : g.contains o) (houter : (g :: outer).Pairwise (·.index > ·.index))
    (hgs : ∀ h ∈ gs, h.contains o = false) : innermost? (g :: outer ++ gs) o = some g.index := by
  rw [innermost?_eq_some_iff]
  refine ⟨⟨g, by simp, hg, rfl⟩, fun h hh hc => ?_⟩
  rcases List.mem_append.mp hh with hh | hh
  · rcases List.mem_cons.mp hh with rfl | hh
    · exact le_rfl
    · exact le_of_lt ((List.pairwise_cons.mp houter).1 h hh)
  · rw [hgs h hh] at hc
    simp at hc

/-- The groups of the markers from some question on do not contain an order before it. -/
theorem not_contains_of_lt {g : RepeatGroup} {o : Int} (hm : Matched ms ps free)
    (hlt : ∀ o' ∈ orders .opening ms, o < o') (hg : g ∈ numbered qs n ps) :
    g.contains o = false := by
  have := hlt _ (hm.mem_opening (bounds_mem_of_mem_numbered hg))
  rw [Bool.eq_false_iff, ne_eq, contains_iff]
  simp only at this
  omega

end Numbered

/-! ## The scan finds the innermost group -/

section Scan

variable {qs : List Question} {ps : List (Int × Int)} {free : List Int}

theorem lt_of_mem_orders_markersOf {q : Question} {kind : MarkerKind} {o : Int}
    (h : Ascending (q :: qs)) (ho : o ∈ orders kind (markersOf qs)) : q.order < o := by
  obtain ⟨q', hq', -, hqo⟩ := Repeat.exists_of_mem_markersOf (mem_orders.mp ho)
  simp only at hqo
  rw [← hqo]
  exact (List.pairwise_cons.mp h).1 q' hq'

/-- What holds of the groups `outer` that are open before the questions `qs`, the last opened first,
when `free` are the closings that the markers of `qs` leave free and `n` is the next index. -/
structure OpenBefore (outer : List RepeatGroup) (n : Nat) (free : List Int) (qs : List Question) :
    Prop where
  /-- They are closed by the free closings. -/
  last : outer.map (·.last) = free
  /-- A group opened later has a greater index. -/
  index : outer.Pairwise (·.index > ·.index)
  /-- Their indices have been given. -/
  lt : ∀ g ∈ outer, g.index < n
  /-- They are opened before the questions. -/
  first : ∀ g ∈ outer, ∀ q ∈ qs, g.first ≤ q.order

section Step

variable {q : Question} {n : Nat} {outer : List RepeatGroup} {g : RepeatGroup}

/-- No group is opened or closed by the question. -/
theorem OpenBefore.stay (h : OpenBefore outer n free (q :: qs)) : OpenBefore outer n free qs :=
  ⟨h.last, h.index, h.lt, fun g hg q' hq' => h.first g hg q' (List.mem_cons_of_mem _ hq')⟩

/-- The top group is closed by the question. -/
theorem OpenBefore.pop {e : Int} (h : OpenBefore (g :: outer) n (e :: free) (q :: qs)) :
    OpenBefore outer n free qs where
  last := (List.cons.inj h.last).2
  index := (List.pairwise_cons.mp h.index).2
  lt g' hg' := h.lt g' (List.mem_cons_of_mem _ hg')
  first g' hg' q' hq' := h.first g' (List.mem_cons_of_mem _ hg') q' (List.mem_cons_of_mem _ hq')

/-- A group is opened by the question. -/
theorem OpenBefore.push {e : Int} (hasc : Ascending (q :: qs))
    (h : OpenBefore outer n free (q :: qs)) (hindex : g.index = n) (hfirst : g.first = q.order)
    (hlast : g.last = e) : OpenBefore (g :: outer) (n + 1) (e :: free) qs where
  last := by rw [List.map_cons, hlast, h.last]
  index := by
    refine List.pairwise_cons.mpr ⟨fun g' hg' => ?_, h.index⟩
    rw [hindex]
    exact h.lt g' hg'
  lt g' hg' := by
    rcases List.mem_cons.mp hg' with rfl | hg'
    · omega
    · have := h.lt g' hg'
      omega
  first g' hg' q' hq' := by
    rcases List.mem_cons.mp hg' with rfl | hg'
    · rw [hfirst]
      exact le_of_lt ((List.pairwise_cons.mp hasc).1 q' hq')
    · exact h.first g' hg' q' (List.mem_cons_of_mem _ hq')

/-- A question that is not behind the closing row of the top group has that group innermost. -/
theorem OpenBefore.innermost?_top {gs : List RepeatGroup}
    (h : OpenBefore (g :: outer) n free (q :: qs)) (hlast : q.order ≤ g.last)
    (hgs : ∀ g' ∈ gs, g'.contains q.order = false) :
    innermost? (g :: outer ++ gs) q.order = some g.index := by
  have hfirst : g.first ≤ q.order := h.first g (List.mem_cons_self ..) q (List.mem_cons_self ..)
  exact innermost?_append_of_open (contains_iff.mpr ⟨hfirst, hlast⟩) h.index hgs

end Step

/-- From any question on, the scan with the groups that are open before it finds the innermost
group. -/
theorem openGroups_eq (all : List Question) (hasc : Ascending qs)
    (hm : Matched (markersOf qs) ps free) (n : Nat) (outer : List RepeatGroup)
    (hopen : OpenBefore outer n free qs) :
    openGroups n (outer.map (·.index)) qs =
      qs.map fun q => innermost? (outer ++ numbered all n ps) q.order := by
  induction qs generalizing ps free n outer with
  | nil => rfl
  | cons q qs ih =>
    have hbehind : ∀ kind, ∀ o ∈ orders kind (markersOf qs), q.order < o :=
      fun kind o ho => lt_of_mem_orders_markersOf hasc ho
    cases hk : markerKind? q with
    | none =>
      rw [Repeat.markersOf_cons_of_other hk] at hm
      have hgs : ∀ h ∈ numbered all n ps, h.contains q.order = false :=
        fun h hh => not_contains_of_lt hm (hbehind .opening) hh
      simp only [openGroups, hk, List.map_cons]
      rw [ih hasc.tail hm n outer hopen.stay]
      congr 1
      cases outer with
      | nil => exact (innermost?_eq_none_iff.mpr hgs).symm
      | cons g outer =>
        have hmem : g.last ∈ free := by
          rw [← hopen.last]
          exact List.mem_cons_self ..
        have hlast := hbehind .closing _ (hm.free_sublist.subset hmem)
        exact (hopen.innermost?_top hlast.le hgs).symm
    | some kind =>
      rw [Repeat.markersOf_cons_of_marker hk] at hm
      cases kind with
      | closing =>
        cases hm with
        | closing _ hm =>
          have hgs : ∀ h ∈ numbered all n ps, h.contains q.order = false :=
            fun h hh => not_contains_of_lt hm (hbehind .opening) hh
          cases outer with
          | nil => exact absurd hopen.last (by simp)
          | cons g outer =>
            have hlast : g.last = q.order := (List.cons.inj hopen.last).1
            simp only [openGroups, hk, List.map_cons, List.head?_cons, List.tail_cons]
            rw [ih hasc.tail hm n outer hopen.pop]
            congr 1
            · exact (hopen.innermost?_top hlast.ge hgs).symm
            · -- behind its closing row the group contains nothing
              refine List.map_congr_left fun q' hq' => ?_
              have hlt := (List.pairwise_cons.mp hasc).1 q' hq'
              refine (innermost?_cons_of_not_contains ?_).symm
              rw [Bool.eq_false_iff, ne_eq, contains_iff]
              omega
      | opening =>
        cases hm with
        | @opening _ ps _ e _ hm =>
          have hgs : ∀ h ∈ numbered all (n + 1) ps, h.contains q.order = false :=
            fun h hh => not_contains_of_lt hm (hbehind .opening) hh
          have he : q.order < e :=
            hbehind .closing e (hm.free_sublist.subset (List.mem_cons_self ..))
          set g := between all n (q.order, e) with hg
          have hopen' := hopen.push hasc (g := g) rfl rfl rfl
          have hgq : g.contains q.order := contains_iff.mpr ⟨le_rfl, he.le⟩
          have hrest := ih hasc.tail hm (n + 1) (g :: outer) hopen'
          simp only [openGroups, hk, List.map_cons, numbered_cons]
          rw [← hg]
          simp only [innermost?_append_cons_comm]
          rw [innermost?_append_of_open hgq hopen'.index hgs, ← hrest]
          rfl

end Scan

/-! ## The groups of a form -/

section Resolve

variable {qs : List Question} {gs : List RepeatGroup}

theorem inOrder_assign (gs : List RepeatGroup) (qs : List Question) :
    inOrder (assign gs qs) = assign gs (inOrder qs) :=
  Question.inOrder_map (fun q => { q with group := innermost? gs q.order }) (fun _ => rfl) qs

/-- Finding the groups numbers them from one in ascending order of their openings, and every opening
or closing row bounds exactly one group; each group is closed behind its opening, and two groups are
apart or one lies strictly inside the other. The group that a question is assigned to is the one
that a scan with the stack of open groups finds, and it lies inside every other group around the
question. -/
theorem resolve_laminar (hd : DistinctOrders qs) (h : resolve qs = .ok gs) :
    gs.map (·.index) = (List.range' 1 gs.length).map (fun k : Nat => (k : Int)) ∧
    gs.Pairwise (·.first < ·.first) ∧
    (∀ q ∈ qs, (markerKind? q).isSome →
      ∃! g, g ∈ gs ∧ (g.first = q.order ∨ g.last = q.order)) ∧
    (∀ g ∈ gs, g.first < g.last) ∧
    (∀ g ∈ gs, ∀ h ∈ gs, g ≠ h → Apart g h ∨ Inside g h ∨ Inside h g) ∧
    (inOrder (assign gs qs)).map (·.group) = openGroups 1 [] (inOrder qs) ∧
    (∀ q ∈ assign gs qs,
      (q.group = none ∧ ∀ g ∈ gs, g.contains q.order = false) ∨
      ∃ g ∈ gs, q.group = some g.index ∧ g.contains q.order ∧
        ∀ h ∈ gs, h.contains q.order → h ≠ g → Inside g h) := by
  obtain ⟨ps, hm, rfl⟩ := (resolve_eq_ok_iff hd).mp h
  have hasc := Question.ascending_inOrder hd
  have hms := Repeat.ascending_markersOf hasc
  refine ⟨?_, ?_, ?_, ?_, ?_, ?_, ?_⟩
  · rw [map_index_numbered, length_numbered]
  · exact (pairwise_before hm hms).imp fun hab => hab.2.1
  · intro q hq hk
    obtain ⟨kind, hk⟩ := Option.isSome_iff_exists.mp hk
    have hmem := mem_orders.mpr (Repeat.mem_markersOf (Question.mem_inOrder.mpr hq) hk)
    obtain ⟨g, hg, hgq⟩ := exists_bound qs 1 hm hmem
    exact ⟨g, ⟨hg, hgq⟩, fun g' hg' => bound_unique hm hms hg'.1 hg hg'.2 hgq⟩
  · exact fun g hg => (hm.nested hms).lt _ (bounds_mem_of_mem_numbered hg)
  · intro g hg h hh hne
    rcases eq_or_before hm hms hg hh with heq | hb | hb
    · exact absurd heq hne
    · rcases hb.apart_or_inside with ha | hi
      · exact Or.inl ha
      · exact Or.inr (Or.inr hi)
    · rcases hb.apart_or_inside with ha | hi
      · exact Or.inl ha.symm
      · exact Or.inr (Or.inl hi)
  · have hscan := openGroups_eq qs hasc hm 1 [] ⟨rfl, List.Pairwise.nil, by simp, by simp⟩
    simp only [List.map_nil, List.nil_append] at hscan
    rw [inOrder_assign, hscan]
    simp [assign]
  · intro q hq
    obtain ⟨q, hq, rfl⟩ := List.mem_map.mp hq
    simp only
    cases hi : innermost? (numbered qs 1 ps) q.order with
    | none => exact Or.inl ⟨rfl, innermost?_eq_none_iff.mp hi⟩
    | some i =>
      obtain ⟨⟨g, hg, hgq, rfl⟩, hmax⟩ := innermost?_eq_some_iff.mp hi
      refine Or.inr ⟨g, hg, rfl, hgq, fun h hh hhq hne => ?_⟩
      rcases eq_or_before hm hms hg hh with heq | hb | hb
      · exact absurd heq.symm hne
      · exact absurd hb.1 (not_lt.mpr (hmax h hh hhq))
      · exact hb.inside hhq hgq

/-- A question of a type, without anything else. -/
def typed (order : Int) (type : String) : Question :=
  { name := "", rawType := type, tokens := [type], order := order }

/-- A group inside another one, between questions. -/
def twoLevels : List Question :=
  [typed 1 "start", typed 2 "begin_repeat", typed 3 "begin_repeat", typed 4 "integer",
    typed 5 "end_repeat", typed 6 "text", typed 7 "end_repeat"]

theorem resolve_twoLevels :
    ∃ gs, resolve twoLevels = .ok gs ∧ (∀ g ∈ gs, g.first < g.last) ∧
      (assign gs twoLevels).map (·.group) =
        [none, some 1, some 2, some 2, some 2, some 1, some 1] := by
  have hasc : Ascending twoLevels := by decide
  have hmarkers : markersOf twoLevels =
      [⟨.opening, 2⟩, ⟨.opening, 3⟩, ⟨.closing, 5⟩, ⟨.closing, 7⟩] := by decide
  have hmatched : Matched (markersOf (inOrder twoLevels)) [(2, 7), (3, 5)] [] := by
    rw [hasc.inOrder_eq, hmarkers]
    exact .opening 2 (.opening 3 (.closing 5 (.closing 7 .nil)))
  have hok : resolve twoLevels = .ok (numbered twoLevels 1 [(2, 7), (3, 5)]) :=
    (resolve_eq_ok_iff hasc.distinctOrders).mpr ⟨_, hmatched, rfl⟩
  obtain ⟨-, -, -, hlt, -, hscan, -⟩ := resolve_laminar hasc.distinctOrders hok
  rw [inOrder_assign, hasc.inOrder_eq] at hscan
  refine ⟨_, hok, hlt, hscan.trans ?_⟩
  decide

end Resolve

end RepeatGroup

end SurveyChecks
