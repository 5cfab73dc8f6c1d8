import SurveyChecks.Proofs.Form.Insertion
import SurveyChecks.Report

/-!
# The depth of nesting

A report counts, for each group, the groups around it. Since groups are nested or apart, the
greatest of these counts is the greatest number of groups that are open at one place, and so the
greatest height that the rows reach when each opening row is a step up and each closing row a step
down.
-/

namespace SurveyChecks

/-! ## Groups open at one place -/

namespace RepeatGroup

open Report (depthOf maxDepth)

variable {gs : List RepeatGroup} {g h : RepeatGroup} {k : Int}

instance (k : Int) (g : RepeatGroup) : Decidable (OpenAt k g) :=
  inferInstanceAs (Decidable (_ ∧ _))

/-- The number of groups that are open at a place. -/
def openCount (gs : List RepeatGroup) (k : Int) : Nat := gs.countP fun g => decide (OpenAt k g)

theorem depthOf_le_maxDepth (hg : g ∈ gs) : depthOf gs g ≤ maxDepth gs :=
  List.le_max?_getD_of_mem (List.mem_map_of_mem hg)

theorem exists_depthOf_eq_maxDepth (h : gs ≠ []) : ∃ g ∈ gs, depthOf gs g = maxDepth gs := by
  unfold maxDepth
  cases hmax : (gs.map (depthOf gs)).max? with
  | none => exact absurd (List.map_eq_nil_iff.mp (List.max?_eq_none_iff.mp hmax)) h
  | some n =>
    obtain ⟨g, hg, hn⟩ := List.mem_map.mp (List.max?_mem hmax)
    exact ⟨g, hg, hn⟩

/-- The groups around a group are open behind its opening row. -/
theorem depthOf_le_openCount (hg : g.first < g.last) :
    depthOf gs g ≤ openCount gs (g.first + 1) := by
  unfold depthOf openCount
  rw [← List.countP_eq_length_filter]
  refine List.countP_mono_left fun o _ ho => ?_
  rw [Bool.and_eq_true, decide_eq_true_eq, decide_eq_true_eq] at ho
  rw [decide_eq_true_eq, OpenAt]
  omega

theorem Before.around_of_openAt (hb : Before g h) (hg : OpenAt k g) (hh : OpenAt k h) :
    g.first ≤ h.first ∧ h.last ≤ g.last := by
  unfold Before at hb
  unfold OpenAt at hg hh
  omega

/-- The groups open at a place lie around the one of them that was opened last. -/
theorem exists_innermost_openAt (hbefore : gs.Pairwise Before) (k : Int) :
    (∀ g ∈ gs, ¬ OpenAt k g) ∨
      ∃ g ∈ gs, OpenAt k g ∧ ∀ o ∈ gs, OpenAt k o → o.first ≤ g.first ∧ g.last ≤ o.last := by
  induction gs with
  | nil => exact Or.inl (by simp)
  | cons g gs ih =>
    obtain ⟨hg, hgs⟩ := List.pairwise_cons.mp hbefore
    rcases ih hgs with hnone | ⟨h, hh, hopen, haround⟩
    · by_cases hk : OpenAt k g
      · refine Or.inr ⟨g, List.mem_cons_self .., hk, fun o ho hok => ?_⟩
        rcases List.mem_cons.mp ho with rfl | ho
        · exact ⟨le_rfl, le_rfl⟩
        · exact absurd hok (hnone o ho)
      · exact Or.inl (List.forall_mem_cons.mpr ⟨hk, hnone⟩)
    · refine Or.inr ⟨h, List.mem_cons_of_mem _ hh, hopen, fun o ho hok => ?_⟩
      rcases List.mem_cons.mp ho with rfl | ho
      · exact (hg h hh).around_of_openAt hok hopen
      · exact haround o ho hok

theorem openCount_le_maxDepth (hbefore : gs.Pairwise Before) (k : Int) :
    openCount gs k ≤ maxDepth gs := by
  rcases exists_innermost_openAt hbefore k with hnone | ⟨g, hg, -, haround⟩
  · have hzero : openCount gs k = 0 := List.countP_eq_zero.mpr fun g hg => by simpa using hnone g hg
    omega
  · refine le_trans ?_ (depthOf_le_maxDepth hg)
    unfold openCount depthOf
    rw [← List.countP_eq_length_filter]
    refine List.countP_mono_left fun o ho hok => ?_
    simpa using haround o ho (by simpa using hok)

/-- The greatest depth of a group is the greatest number of groups open at one place. -/
theorem isGreatest_openCount (hbefore : gs.Pairwise Before) (hlt : ∀ g ∈ gs, g.first < g.last) :
    IsGreatest (Set.range (openCount gs)) (maxDepth gs) := by
  refine ⟨?attained, ?bound⟩
  case attained =>
    by_cases hgs : gs = []
    · subst hgs
      exact ⟨0, rfl⟩
    · obtain ⟨g, hg, hdepth⟩ := exists_depthOf_eq_maxDepth hgs
      refine ⟨g.first + 1, le_antisymm (openCount_le_maxDepth hbefore _) ?_⟩
      rw [← hdepth]
      exact depthOf_le_openCount (hlt g hg)
  case bound =>
    rintro _ ⟨k, rfl⟩
    exact openCount_le_maxDepth hbefore k

theorem maxDepth_eq_zero_iff : maxDepth gs = 0 ↔ gs = [] := by
  constructor
  · intro h
    by_contra hgs
    obtain ⟨g, hg, hdepth⟩ := exists_depthOf_eq_maxDepth hgs
    have hself : g ∈ gs.filter fun o => decide (o.first ≤ g.first) && decide (g.last ≤ o.last) :=
      List.mem_filter.mpr ⟨hg, by simp⟩
    have hpos := List.length_pos_of_mem hself
    unfold depthOf at hdepth
    omega
  · rintro rfl
    rfl

end RepeatGroup

/-! ## The height of the rows -/

namespace Repeat

open Marker (orders count)
open Question (Ascending)
open RepeatGroup (OpenAt openCount numbered)

/-- By how many the rows that open a group exceed those that close one. -/
def excess (qs : List Question) : Int :=
  (qs.countP (·.base = Question.beginRepeat) : Nat) - (qs.countP (·.base = Question.endRepeat) : Nat)

variable {qs pre post : List Question} {ps : List (Int × Int)} {k : Int}

theorem countP_base_eq_count (kind : MarkerKind) (qs : List Question) :
    qs.countP (·.base = kind.word) = count kind (markersOf qs) := by
  unfold count
  rw [orders_markersOf, List.length_map, ← List.countP_eq_length_filter]
  refine List.countP_congr fun q _ => ?_
  rw [decide_eq_true_eq, beq_iff_eq]
  cases kind with
  | opening => exact markerKind?_eq_opening_iff.symm
  | closing => exact markerKind?_eq_closing_iff.symm

/-- The place `k` parts the questions: `pre` stand before it, `post` at it and behind it. -/
structure PartedAt (k : Int) (pre post : List Question) : Prop where
  before : ∀ q ∈ pre, q.order < k
  behind : ∀ q ∈ post, k ≤ q.order

theorem exists_place (h : Ascending (pre ++ post)) : ∃ k, PartedAt k pre post := by
  obtain ⟨hpre, -, hcross⟩ := List.pairwise_append.mp h
  cases post with
  | cons q post =>
    refine ⟨q.order, fun q' hq' => hcross q' hq' q (List.mem_cons_self ..), fun q' hq' => ?_⟩
    have hpost := (List.pairwise_append.mp h).2.1
    rcases List.mem_cons.mp hq' with rfl | hq'
    · exact le_rfl
    · exact ((List.pairwise_cons.mp hpost).1 q' hq').le
  | nil =>
    rcases List.eq_nil_or_concat' pre with rfl | ⟨init, q, rfl⟩
    · exact ⟨0, by simp, by simp⟩
    · refine ⟨q.order + 1, fun q' hq' => ?_, by simp⟩
      rcases List.mem_append.mp hq' with hq' | hq'
      · have := (List.pairwise_append.mp hpre).2.2 q' hq' q (List.mem_singleton_self q)
        omega
      · rw [List.mem_singleton.mp hq']
        omega

theorem exists_parted (h : Ascending qs) (k : Int) :
    ∃ pre post, qs = pre ++ post ∧ PartedAt k pre post := by
  induction qs with
  | nil => exact ⟨[], [], rfl, by simp, by simp⟩
  | cons q qs ih =>
    obtain ⟨hq, hqs⟩ := List.pairwise_cons.mp h
    by_cases hk : q.order < k
    · obtain ⟨pre, post, rfl, hparted⟩ := ih hqs
      exact ⟨q :: pre, post, rfl, List.forall_mem_cons.mpr ⟨hk, hparted.before⟩, hparted.behind⟩
    · refine ⟨[], q :: qs, rfl, by simp, List.forall_mem_cons.mpr ⟨by omega, fun q' hq' => ?_⟩⟩
      have := hq q' hq'
      omega

/-- The markers before a place are those of smaller orders. -/
theorem PartedAt.count_eq (h : PartedAt k pre post) (kind : MarkerKind) :
    count kind (markersOf pre) =
      (orders kind (markersOf (pre ++ post))).countP fun o => decide (o < k) := by
  have hpre : ∀ o ∈ orders kind (markersOf pre), o < k := by
    intro o ho
    obtain ⟨q, hq, -, rfl⟩ := exists_of_mem_markersOf (Marker.mem_orders.mp ho)
    exact h.before q hq
  have hpost : ∀ o ∈ orders kind (markersOf post), ¬ o < k := by
    intro o ho
    obtain ⟨q, hq, -, rfl⟩ := exists_of_mem_markersOf (Marker.mem_orders.mp ho)
    exact not_lt.mpr (h.behind q hq)
  have hall : (orders kind (markersOf pre)).countP (fun o => decide (o < k)) =
      (orders kind (markersOf pre)).length :=
    List.countP_eq_length.mpr fun o ho => by simpa using hpre o ho
  have hnone : (orders kind (markersOf post)).countP (fun o => decide (o < k)) = 0 :=
    List.countP_eq_zero.mpr fun o ho => by simpa using hpost o ho
  rw [markersOf_append, Marker.orders_append, List.countP_append, hall, hnone]
  rfl

/-- Of the pairs opened before a place, those are open there that are not closed before it. -/
theorem countP_opened (hlt : ∀ p ∈ ps, p.1 < p.2) (k : Int) :
    ps.countP (fun p => decide (p.1 < k)) =
      ps.countP (fun p => decide (p.1 < k ∧ k ≤ p.2)) + ps.countP (fun p => decide (p.2 < k)) := by
  induction ps with
  | nil => rfl
  | cons p ps ih =>
    obtain ⟨hp, hps⟩ := List.forall_mem_cons.mp hlt
    have hrest := ih hps
    simp only [List.countP_cons, decide_eq_true_eq]
    by_cases hopened : p.1 < k
    · by_cases hclosed : p.2 < k
      · rw [if_pos hopened, if_neg (by omega), if_pos hclosed]
        omega
      · rw [if_pos hopened, if_pos (by omega), if_neg hclosed]
        omega
    · rw [if_neg hopened, if_neg (by omega), if_neg (by omega)]
      omega

/-- The rows before a place exceed by as many as there are groups open there. -/
theorem excess_eq_openCount (all : List Question) (n : Nat) (hasc : Ascending (pre ++ post))
    (hm : Matched (markersOf (pre ++ post)) ps []) (h : PartedAt k pre post) :
    excess pre = openCount (numbered all n ps) k := by
  have hopened : count .opening (markersOf pre) = ps.countP fun p => decide (p.1 < k) := by
    rw [h.count_eq, ← hm.map_fst, List.countP_map]
    rfl
  have hclosed : count .closing (markersOf pre) = ps.countP fun p => decide (p.2 < k) := by
    have hperm := hm.perm_closings
    rw [List.append_nil] at hperm
    rw [h.count_eq, ← hperm.countP_eq, List.countP_map]
    rfl
  have hopen : openCount (numbered all n ps) k = ps.countP fun p => decide (p.1 < k ∧ k ≤ p.2) := by
    conv_rhs => rw [← RepeatGroup.map_bounds_numbered all n ps, List.countP_map]
    rfl
  have hsplit := countP_opened (hm.nested (ascending_markersOf hasc)).lt k
  have hbegin := countP_base_eq_count .opening pre
  have hend := countP_base_eq_count .closing pre
  unfold MarkerKind.word at hbegin hend
  unfold excess
  rw [hbegin, hend, hopen]
  omega

theorem isGreatest_excess (all : List Question) (n : Nat) (hasc : Ascending qs)
    (hm : Matched (markersOf qs) ps []) :
    IsGreatest {e : Int | ∃ pre, pre <+: qs ∧ e = excess pre}
      (Report.maxDepth (numbered all n ps) : Nat) := by
  have hms := ascending_markersOf hasc
  have hbefore : (numbered all n ps).Pairwise RepeatGroup.Before :=
    RepeatGroup.pairwise_before hm hms
  have hlt : ∀ g ∈ numbered all n ps, g.first < g.last := fun g hg =>
    RepeatGroup.first_lt_last hm hms hg
  obtain ⟨⟨k, hk⟩, hbound⟩ := RepeatGroup.isGreatest_openCount hbefore hlt
  constructor
  · obtain ⟨pre, post, rfl, hparted⟩ := exists_parted hasc k
    refine ⟨pre, List.prefix_append _ _, ?_⟩
    rw [excess_eq_openCount all n hasc hm hparted, hk]
  · rintro _ ⟨pre, ⟨post, rfl⟩, rfl⟩
    obtain ⟨k, hparted⟩ := exists_place hasc
    rw [excess_eq_openCount all n hasc hm hparted]
    exact Int.ofNat_le.mpr (hbound ⟨k, rfl⟩)

end Repeat

namespace Form

open Question (Ascending)
open RepeatGroup (openCount)

variable {survey choices : Sheet} {name : String} {f : Form}

/-- The depth that is reported for an analysed form is the greatest excess of opening over closing
rows among the beginnings of its questions, and the greatest number of repeat groups that are open
at one place. It is zero just when there are no groups. -/
theorem parse_depth (h : parse survey choices name = .ok f) :
    IsGreatest {e : Int | ∃ pre, pre <+: f.questions ∧ e = Repeat.excess pre}
      (Report.ofForm f).depth ∧
    IsGreatest (Set.range (openCount f.groups)) (Report.ofForm f).depth ∧
    ((Report.ofForm f).depth = 0 ↔ f.groups = []) := by
  obtain ⟨-, cs, ps, -, hm, rfl⟩ := parse_eq_ok_iff_matched.mp h
  set qs := Question.ofRows survey.columns survey.rows
  have hasc : Ascending qs := Question.ascending_ofRows ..
  have hms := Repeat.ascending_markersOf hasc
  have hplaced : Ascending (qs.map (Dataset.place (RepeatGroup.numbered qs 1 ps))) :=
    ascending_place hasc _
  have hmarkers : Repeat.markersOf (qs.map (Dataset.place (RepeatGroup.numbered qs 1 ps))) =
      Repeat.markersOf qs :=
    List.filterMap_map ..
  refine ⟨?excess, ?openCount, RepeatGroup.maxDepth_eq_zero_iff⟩
  case excess => exact Repeat.isGreatest_excess qs 1 hplaced (hmarkers ▸ hm)
  case openCount =>
    exact RepeatGroup.isGreatest_openCount (RepeatGroup.pairwise_before hm hms)
      fun g hg => RepeatGroup.first_lt_last hm hms hg

theorem parse_depth_nestedSurvey :
    parse nestedSurvey noChoices "nested" = .ok (nestedForm "nested") ∧
    (Report.ofForm (nestedForm "nested")).depth = 2 ∧
    Repeat.excess ((nestedForm "nested").questions.take 7) = 2 ∧
    ∀ pre, pre <+: (nestedForm "nested").questions → Repeat.excess pre ≤ 2 := by
  have hparse := parse_nestedSurvey "nested"
  have hdepth : (Report.ofForm (nestedForm "nested")).depth = 2 := by decide +kernel
  obtain ⟨⟨-, hbound⟩, -⟩ := parse_depth hparse
  rw [hdepth] at hbound
  exact ⟨hparse, hdepth, by decide +kernel, fun pre hpre => hbound ⟨pre, hpre, rfl⟩⟩

end Form

end SurveyChecks
