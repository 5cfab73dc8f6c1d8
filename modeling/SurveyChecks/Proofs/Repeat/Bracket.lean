import Mathlib.Order.Bounds.Defs
import SurveyChecks.Proofs.Repeat.Matching
import SurveyChecks.Proofs.Sorting

/-!
# Bracket matching

The pairs of `Repeat.pair` are those of bracket matching with a stack: reading the markers from the
left, an opening marker is pushed and a closing marker pops the opening marker it belongs to. The
scan from the left and the matching from the right are compared through the closings that a part of
the sequence leaves free: they are the ones that close what stands on the stack before that part.
-/

namespace SurveyChecks.Repeat

open Marker

/-! ## The stack scan -/

/-- Bracket matching from the left: the pairs in the sequence of their closings, and the openings
that stay on the stack. It fails when a closing marker meets the empty stack. -/
def scan : List Int → List Marker → Option (List (Int × Int) × List Int)
  | stack, [] => some ([], stack)
  | stack, ⟨.opening, b⟩ :: ms => scan (b :: stack) ms
  | [], ⟨.closing, _⟩ :: _ => none
  | b :: stack, ⟨.closing, e⟩ :: ms => (scan stack ms).map fun r => ((b, e) :: r.1, r.2)

/-- Pairs in the sequence of their openings. -/
def byOpening (ps : List (Int × Int)) : List (Int × Int) :=
  ps.mergeSort fun p q => decide (p.1 ≤ q.1)

/-- The opening and closing orders merged into one sequence of markers. -/
def sequence (openings closings : List Int) : List Marker :=
  List.merge (openings.map (⟨.opening, ·⟩)) (closings.map (⟨.closing, ·⟩))
    fun m n => decide (m.order ≤ n.order)

/-- No beginning of the sequence has more closing than opening markers. -/
def NeverBelow (ms : List Marker) : Prop :=
  ∀ pre, pre <+: ms → count .closing pre ≤ count .opening pre

/-- The openings from `b` on outnumber the closings behind `b`. -/
def Outnumber (openings closings : List Int) (b : Int) : Prop :=
  closings.countP (b < ·) < openings.countP (b ≤ ·)

section Scan

variable {ms : List Marker} {ps : List (Int × Int)} {free : List Int}

/-- The closings that a matched sequence leaves free close the top of the stack. -/
theorem Matched.scan_eq (h : Matched ms ps free) (stack : List Int)
    (hlen : free.length ≤ stack.length) :
    ∃ qs, scan stack ms = some (qs, stack.drop free.length) ∧ qs.Perm (ps ++ stack.zip free) := by
  induction h generalizing stack with
  | nil => exact ⟨[], by simp [scan], by simp⟩
  | closing e h ih =>
    cases stack with
    | nil => simp at hlen
    | cons b stack =>
      obtain ⟨qs, hqs, hperm⟩ := ih stack (by simpa using hlen)
      refine ⟨(b, e) :: qs, by simp [scan, hqs], ?_⟩
      exact (hperm.cons (b, e)).trans (by simpa using List.perm_middle.symm)
  | opening b h ih =>
    obtain ⟨qs, hqs, hperm⟩ := ih (b :: stack) (by simpa using hlen)
    refine ⟨qs, by simpa [scan] using hqs, hperm.trans ?_⟩
    exact List.perm_middle

/-- The pairs of a sequence in which nothing stays free are those of the stack scan. -/
theorem Matched.eq_byOpening (h : Matched ms ps []) (hms : Ascending ms) :
    ∃ qs, scan [] ms = some (qs, []) ∧ ps = byOpening qs := by
  obtain ⟨qs, hqs, hperm⟩ := h.scan_eq [] (Nat.zero_le _)
  refine ⟨qs, by simpa using hqs, ?_⟩
  have hps : (ps.map (·.1)).Pairwise (· < ·) := h.map_fst ▸ hms.pairwise_orders
  have hfst : ps.Pairwise fun p q => p.1 < q.1 := List.pairwise_map.mp hps
  have hsorted : byOpening ps = ps :=
    List.mergeSort_of_pairwise (hfst.imp fun hab => by simpa using le_of_lt hab)
  have hperm' : ps.Perm qs := by simpa using hperm.symm
  -- no two pairs have the same opening, because the openings ascend strictly
  have hnodup : (ps.map (·.1)).Nodup := hps.imp fun hab => ne_of_lt hab
  exact hsorted.symm.trans (mergeSort_eq_of_perm hperm' hnodup)

end Scan

/-! ## When a sequence can be matched -/

section Balance

variable {ms : List Marker}

/-- A sequence can be matched when no end of it has more opening than closing markers. -/
theorem exists_matched_iff :
    (∃ ps free, Matched ms ps free) ↔
      ∀ post, post <:+ ms → count .opening post ≤ count .closing post := by
  constructor
  · rintro ⟨ps, free, h⟩ post ⟨pre, rfl⟩
    obtain ⟨ps', free', h'⟩ := h.of_append
    have := h'.count_closing
    omega
  · intro h
    induction ms with
    | nil => exact ⟨[], [], .nil⟩
    | cons m ms ih =>
      obtain ⟨kind, o⟩ := m
      obtain ⟨ps, free, hm⟩ := ih fun post hpost => h post (hpost.trans (List.suffix_cons _ _))
      cases kind with
      | closing => exact ⟨ps, o :: free, .closing o hm⟩
      | opening =>
        cases free with
        | cons e free => exact ⟨(o, e) :: ps, free, .opening o hm⟩
        | nil =>
          have hall := h _ (List.suffix_refl _)
          have hcount := hm.count_closing
          simp only [count_cons_self, count_closing_cons_opening, List.length_nil] at hall hcount
          omega

/-- Nothing stays free exactly when there are as many openings as closings and no beginning has
more closings than openings. -/
theorem exists_matched_nil_iff :
    (∃ ps, Matched ms ps []) ↔ count .opening ms = count .closing ms ∧ NeverBelow ms := by
  constructor
  · rintro ⟨ps, h⟩
    have hall : count .closing ms = count .opening ms := by simpa using h.count_closing
    refine ⟨hall.symm, ?_⟩
    rintro pre ⟨post, rfl⟩
    have hpost := exists_matched_iff.mp ⟨ps, [], h⟩ post (List.suffix_append _ _)
    simp only [count_append] at hall
    omega
  · rintro ⟨hall, hbelow⟩
    have hmatched : ∃ ps free, Matched ms ps free := by
      rw [exists_matched_iff]
      rintro post ⟨pre, rfl⟩
      have hpre := hbelow pre (List.prefix_append _ _)
      simp only [count_append] at hall
      omega
    obtain ⟨ps, free, h⟩ := hmatched
    have hfree : free = [] := by
      have := h.count_closing
      exact List.eq_nil_of_length_eq_zero (by omega)
    exact ⟨ps, hfree ▸ h⟩

end Balance

/-! ## The marker at which matching is stuck -/

section Stuck

variable {ms pre post : List Marker} {b : Int}

theorem countP_openings_from (h : Ascending (pre ++ ⟨.opening, b⟩ :: post)) :
    (orders .opening (pre ++ ⟨.opening, b⟩ :: post)).countP (b ≤ ·) = count .opening post + 1 := by
  obtain ⟨hpre, hpost⟩ := h.split .opening
  have h0 : (orders .opening pre).countP (b ≤ ·) = 0 :=
    List.countP_eq_zero.mpr fun o ho => by simpa using hpre o ho
  have h1 : (orders .opening post).countP (b ≤ ·) = count .opening post :=
    List.countP_eq_length.mpr fun o ho => by simpa using (hpost o ho).le
  simp [h0, h1]

theorem countP_closings_behind (h : Ascending (pre ++ ⟨.opening, b⟩ :: post)) :
    (orders .closing (pre ++ ⟨.opening, b⟩ :: post)).countP (b < ·) = count .closing post := by
  obtain ⟨hpre, hpost⟩ := h.split .closing
  have h0 : (orders .closing pre).countP (b < ·) = 0 :=
    List.countP_eq_zero.mpr fun o ho => by simpa using (hpre o ho).le
  have h1 : (orders .closing post).countP (b < ·) = count .closing post :=
    List.countP_eq_length.mpr fun o ho => by simpa using hpost o ho
  simp [h0, h1]

/-- Matching is stuck at the greatest opening from which on the openings outnumber the closings. -/
theorem StuckAt.isGreatest (h : StuckAt ms b) (hms : Ascending ms) :
    IsGreatest
      {b | b ∈ orders .opening ms ∧ Outnumber (orders .opening ms) (orders .closing ms) b} b := by
  obtain ⟨pre, post, ps, rfl, hm⟩ := h
  have hcount : count .closing post = count .opening post := by simpa using hm.count_closing
  refine ⟨⟨mem_orders.mpr (by simp), ?_⟩, ?_⟩
  · unfold Outnumber
    rw [countP_openings_from hms, countP_closings_behind hms]
    omega
  · rintro b' ⟨hb', hout⟩
    by_contra hlt
    -- a greater opening stands behind `b`, where everything is matched
    have hmem : ⟨.opening, b'⟩ ∈ post := by
      rcases List.mem_append.mp (mem_orders.mp hb') with hin | hin
      · have := (hms.split .opening).1 b' (mem_orders.mpr hin)
        exact absurd this.le hlt
      · rcases List.mem_cons.mp hin with heq | hin
        · have : b' = b := congrArg Marker.order heq
          exact absurd this.le hlt
        · exact hin
    obtain ⟨pre', post', rfl⟩ := List.append_of_mem hmem
    obtain ⟨ps', free', hm'⟩ := hm.of_append
    have hcount' := hm'.count_closing
    have hsplit : pre ++ ⟨.opening, b⟩ :: (pre' ++ ⟨.opening, b'⟩ :: post') =
        (pre ++ ⟨.opening, b⟩ :: pre') ++ ⟨.opening, b'⟩ :: post' := by simp
    rw [hsplit] at hms hout
    unfold Outnumber at hout
    rw [countP_openings_from hms, countP_closings_behind hms] at hout
    simp only [count_cons_self, count_closing_cons_opening] at hcount'
    omega

end Stuck

/-! ## The sequence of two lists of orders -/

section Sequence

variable {os cs : List Int}

theorem sequence_perm (os cs : List Int) :
    (sequence os cs).Perm (os.map (⟨.opening, ·⟩) ++ cs.map (⟨.closing, ·⟩)) :=
  List.merge_perm_append _

theorem ascending_sequence (hos : os.Pairwise (· < ·)) (hcs : cs.Pairwise (· < ·))
    (hdisj : os.Disjoint cs) : Ascending (sequence os cs) := by
  have hle : (sequence os cs).Pairwise fun m n => m.order ≤ n.order := by
    have hsorted : (sequence os cs).Pairwise fun m n => decide (m.order ≤ n.order) = true :=
      List.pairwise_merge (by intro a b c; simp; omega) (by intro a b; simp; omega) _ _
        (by simpa [List.pairwise_map] using hos.imp fun hab => le_of_lt hab)
        (by simpa [List.pairwise_map] using hcs.imp fun hab => le_of_lt hab)
    simpa only [decide_eq_true_eq] using hsorted
  have hnodup : ((sequence os cs).map (·.order)).Nodup := by
    rw [((sequence_perm os cs).map _).nodup_iff]
    have : (os ++ cs).Nodup :=
      List.nodup_append'.mpr ⟨hos.imp fun hab => ne_of_lt hab, hcs.imp fun hab => ne_of_lt hab,
        hdisj⟩
    simpa [Function.comp_def] using this
  exact (hle.and (List.pairwise_map.mp hnodup)).imp fun hab => lt_of_le_of_ne hab.1 hab.2

theorem orders_sequence (hos : os.Pairwise (· < ·)) (hcs : cs.Pairwise (· < ·))
    (hdisj : os.Disjoint cs) :
    orders .opening (sequence os cs) = os ∧ orders .closing (sequence os cs) = cs := by
  have hasc := ascending_sequence hos hcs hdisj
  have hperm : ∀ kind, (orders kind (sequence os cs)).Perm
      (orders kind (os.map (⟨.opening, ·⟩)) ++ orders kind (cs.map (⟨.closing, ·⟩))) := by
    intro kind
    rw [← orders_append]
    exact ((sequence_perm os cs).filter _).map _
  have hopening : (orders .opening (sequence os cs)).Perm os := by
    simpa [orders_map_of_ne] using hperm .opening
  have hclosing : (orders .closing (sequence os cs)).Perm cs := by
    simpa [orders_map_of_ne] using hperm .closing
  exact ⟨hopening.eq_of_pairwise (fun a b _ _ hab hba => absurd hab (lt_asymm hba))
      hasc.pairwise_orders hos,
    hclosing.eq_of_pairwise (fun a b _ _ hab hba => absurd hab (lt_asymm hba))
      hasc.pairwise_orders hcs⟩

end Sequence

/-! ## Pairing is bracket matching -/

section Pair

variable {ms : List Marker} {ps : List (Int × Int)}

/-- Pairing the markers of an ascending sequence succeeds just when nothing stays free, and then
gives the pairs of the matching. -/
theorem pair_eq_ok_iff (h : Ascending ms) :
    pair (orders .opening ms) (orders .closing ms) = .ok ps ↔ Matched ms ps [] := by
  unfold pair
  rcases claim_spec h with ⟨ps', free, hc, hm⟩ | ⟨b, hc, pre, post, ps', rfl, hm⟩
  · have hcount := hm.count_closing
    simp only [count] at hcount
    by_cases hlen : (orders .opening ms).length = (orders .closing ms).length
    · have hfree : free = [] := List.eq_nil_of_length_eq_zero (by omega)
      subst hfree
      simp only [hlen, hc, ne_eq, not_true_eq_false, if_false, Except.map, Except.ok.injEq]
      exact ⟨fun heq => heq ▸ hm, fun hm' => (hm.unique hm').1⟩
    · simp only [ne_eq, hlen, not_false_eq_true, if_true, reduceCtorEq, false_iff]
      intro hm'
      have := hm'.count_closing
      simp only [count, List.length_nil] at this
      omega
  · constructor
    · rw [hc]
      split <;> simp [Except.map]
    · intro hm'
      obtain ⟨ps'', free, hopen⟩ := hm'.of_append
      have hopen' := hopen.count_closing
      have hcount := hm.count_closing
      simp only [count_cons_self, count_closing_cons_opening, List.length_nil] at hopen' hcount
      omega

/-- Where the counts agree but pairing fails, it names the opening at which matching is stuck. -/
theorem pair_eq_unclosed (h : Ascending ms) (hlen : count .opening ms = count .closing ms)
    (hno : ¬ ∃ ps, Matched ms ps []) :
    ∃ b, pair (orders .opening ms) (orders .closing ms) = .error (.unclosedRepeat b) ∧
      StuckAt ms b := by
  rcases claim_spec h with ⟨ps, free, hc, hm⟩ | ⟨b, hc, hstuck⟩
  · have hfree : free = [] := List.eq_nil_of_length_eq_zero (by have := hm.count_closing; omega)
    exact absurd ⟨ps, hfree ▸ hm⟩ hno
  · refine ⟨b, ?_, hstuck⟩
    simp only [count] at hlen
    simp [pair, hlen, hc, Except.map]

/-- Pairing two ascending lists of orders without a common one is bracket matching. It succeeds
exactly when the lists are equally long and no beginning of the merged sequence has more closings
than openings; its pairs are those of the stack scan, in the sequence of the openings. Lists of
different lengths are reported as unbalanced; otherwise the error names the greatest opening from
which on the openings outnumber the closings behind it. -/
theorem pair_is_bracket_matching {os cs : List Int} (hos : os.Pairwise (· < ·))
    (hcs : cs.Pairwise (· < ·)) (hdisj : os.Disjoint cs) :
    ((∃ ps, pair os cs = .ok ps) ↔ os.length = cs.length ∧ NeverBelow (sequence os cs)) ∧
    (∀ ps, pair os cs = .ok ps →
      ∃ qs, scan [] (sequence os cs) = some (qs, []) ∧ ps = byOpening qs) ∧
    (os.length ≠ cs.length → pair os cs = .error (.unbalancedRepeats os.length cs.length)) ∧
    (os.length = cs.length → ¬ NeverBelow (sequence os cs) →
      ∃ b, pair os cs = .error (.unclosedRepeat b) ∧
        IsGreatest {b | b ∈ os ∧ Outnumber os cs b} b) := by
  have hasc := ascending_sequence hos hcs hdisj
  obtain ⟨hopening, hclosing⟩ := orders_sequence hos hcs hdisj
  have hok : ∀ ps, pair os cs = .ok ps ↔ Matched (sequence os cs) ps [] := by
    intro ps
    simpa only [hopening, hclosing] using pair_eq_ok_iff hasc
  have hbalance : (∃ ps, Matched (sequence os cs) ps []) ↔
      count .opening (sequence os cs) = count .closing (sequence os cs) ∧
        NeverBelow (sequence os cs) := exists_matched_nil_iff
  simp only [count, hopening, hclosing] at hbalance
  refine ⟨?_, ?_, ?_, ?_⟩
  · simp only [hok]
    exact hbalance
  · intro ps hps
    exact ((hok ps).mp hps).eq_byOpening hasc
  · intro hne
    simp [pair, hne]
  · intro hlen hbelow
    have hno : ¬ ∃ ps, Matched (sequence os cs) ps [] := fun hm => hbelow (hbalance.mp hm).2
    obtain ⟨b, hb, hstuck⟩ :=
      pair_eq_unclosed hasc (by simpa only [count, hopening, hclosing] using hlen) hno
    rw [hopening, hclosing] at hb
    have hgreatest := hstuck.isGreatest hasc
    rw [hopening, hclosing] at hgreatest
    exact ⟨b, hb, hgreatest⟩

/-- Two groups inside a third one, and an opening that comes behind all closings. -/
theorem pair_siblings_and_unclosed :
    (pair [1, 2, 5] [4, 7, 8] = .ok [(1, 8), (2, 4), (5, 7)] ∧
      NeverBelow (sequence [1, 2, 5] [4, 7, 8])) ∧
    (pair [1, 5] [2, 3] = .error (.unclosedRepeat 5) ∧
      IsGreatest {b | b ∈ [1, 5] ∧ Outnumber [1, 5] [2, 3] b} 5) := by
  have hok : pair [1, 2, 5] [4, 7, 8] = .ok [(1, 8), (2, 4), (5, 7)] := by rfl
  have herror : pair [1, 5] [2, 3] = .error (.unclosedRepeat 5) := by rfl
  have hseq : sequence [1, 5] [2, 3] =
      [⟨.opening, 1⟩, ⟨.closing, 2⟩, ⟨.closing, 3⟩, ⟨.opening, 5⟩] := by
    simp [sequence]
  have hbelow : ¬ NeverBelow (sequence [1, 5] [2, 3]) := by
    intro h
    have := h [⟨.opening, 1⟩, ⟨.closing, 2⟩, ⟨.closing, 3⟩] (by rw [hseq]; decide)
    simp at this
  obtain ⟨hiff, -, -, -⟩ := @pair_is_bracket_matching [1, 2, 5] [4, 7, 8]
    (by decide) (by decide) (by simp)
  obtain ⟨-, -, -, hunclosed⟩ := @pair_is_bracket_matching [1, 5] [2, 3]
    (by decide) (by decide) (by simp)
  obtain ⟨b, hb, hgreatest⟩ := hunclosed rfl hbelow
  have hb5 : b = 5 := by
    rw [herror] at hb
    injection hb with hb
    injection hb with hb
    exact hb.symm
  subst hb5
  exact ⟨⟨hok, (hiff.mp ⟨_, hok⟩).2⟩, herror, hgreatest⟩

end Pair

end SurveyChecks.Repeat
