import Mathlib.Data.List.Nodup
import Mathlib.Data.List.Sort

/-!
# Sorting by a number

Lists sorted by a number that each item has. Items of the same number keep their sequence, and this
together with the ascending numbers decides what the sorted list is. When no two items have the same
number, the sorted list is the same for every arrangement of the items.
-/

namespace SurveyChecks

variable {α : Type} {key : α → Int} {xs ys : List α}

theorem decide_key_le_trans (a b c : α) (hab : decide (key a ≤ key b) = true)
    (hbc : decide (key b ≤ key c) = true) : decide (key a ≤ key c) = true := by
  simp only [decide_eq_true_eq] at hab hbc ⊢
  omega

theorem decide_key_le_total (a b : α) :
    (decide (key a ≤ key b) || decide (key b ≤ key a)) = true := by
  simp only [Bool.or_eq_true, decide_eq_true_eq]
  omega

theorem pairwise_mergeSort_key (key : α → Int) (xs : List α) :
    (xs.mergeSort fun a b => decide (key a ≤ key b)).Pairwise fun a b => key a ≤ key b := by
  have hsorted : (xs.mergeSort fun a b => decide (key a ≤ key b)).Pairwise
      fun a b => decide (key a ≤ key b) = true :=
    List.pairwise_mergeSort decide_key_le_trans decide_key_le_total xs
  simpa only [decide_eq_true_eq] using hsorted

/-- Sorting by a number that no two items share leaves nothing of the arrangement before. -/
theorem mergeSort_eq_of_perm (h : xs.Perm ys) (hkey : (xs.map key).Nodup) :
    (xs.mergeSort fun a b => decide (key a ≤ key b)) =
      ys.mergeSort fun a b => decide (key a ≤ key b) := by
  have hperm : (xs.mergeSort fun a b => decide (key a ≤ key b)).Perm
      (ys.mergeSort fun a b => decide (key a ≤ key b)) :=
    (List.mergeSort_perm ..).trans (h.trans (List.mergeSort_perm ..).symm)
  refine hperm.eq_of_pairwise (fun a b ha hb hab hba => ?_) (pairwise_mergeSort_key key xs)
    (pairwise_mergeSort_key key ys)
  have hb' : b ∈ xs := h.mem_iff.mpr ((List.mergeSort_perm ..).mem_iff.mp hb)
  exact List.inj_on_of_nodup_map hkey ((List.mergeSort_perm ..).mem_iff.mp ha) hb'
    (Int.le_antisymm hab hba)

theorem pairwise_lt_range'_cast (n length : Nat) :
    ((List.range' n length).map fun k : Nat => (k : Int)).Pairwise (· < ·) :=
  List.Pairwise.map _ (fun _ _ => Int.ofNat_lt.mpr) List.pairwise_lt_range'

/-! ## Items of the same number -/

theorem mem_of_filter_key_eq {x : α} (h : ∀ k, xs.filter (key · == k) = ys.filter (key · == k))
    (hx : x ∈ xs) : x ∈ ys := by
  have hx : x ∈ xs.filter (key · == key x) := List.mem_filter.mpr ⟨hx, by simp⟩
  rw [h] at hx
  exact (List.mem_filter.mp hx).1

/-- The head of an ascending list has the least number. -/
theorem key_head_le {x y : α} (h : (y :: ys).Pairwise fun a b => key a ≤ key b)
    (hx : x ∈ y :: ys) : key y ≤ key x := by
  rcases List.mem_cons.mp hx with rfl | hx
  · exact le_rfl
  · exact (List.pairwise_cons.mp h).1 x hx

/-- Two ascending lists are the same when they have the same items of each number in the same
sequence. -/
theorem eq_of_filter_key_eq (hxs : xs.Pairwise fun a b => key a ≤ key b)
    (hys : ys.Pairwise fun a b => key a ≤ key b)
    (h : ∀ k, xs.filter (key · == k) = ys.filter (key · == k)) : xs = ys := by
  induction xs generalizing ys with
  | nil =>
    refine (List.eq_nil_iff_forall_not_mem.mpr fun y hy => ?_).symm
    exact List.not_mem_nil (mem_of_filter_key_eq (fun k => (h k).symm) hy)
  | cons x xs ih =>
    cases ys with
    | nil => exact absurd (mem_of_filter_key_eq h (List.mem_cons_self ..)) List.not_mem_nil
    | cons y ys =>
      have hy : y ∈ x :: xs := mem_of_filter_key_eq (fun k => (h k).symm) (List.mem_cons_self ..)
      have hx : x ∈ y :: ys := mem_of_filter_key_eq h (List.mem_cons_self ..)
      have hkey : key x = key y := Int.le_antisymm (key_head_le hxs hy) (key_head_le hys hx)
      have hhead : x = y := by
        have hk := h (key x)
        rw [List.filter_cons_of_pos (by simp), List.filter_cons_of_pos (by simp [hkey])] at hk
        exact (List.cons.inj hk).1
      subst hhead
      refine congrArg (x :: ·) (ih hxs.tail hys.tail fun k => ?_)
      have hk := h k
      rw [List.filter_cons, List.filter_cons] at hk
      split at hk
      · exact (List.cons.inj hk).2
      · exact hk

/-- Sorting keeps the sequence of the items of each number. -/
theorem filter_key_mergeSort (key : α → Int) (xs : List α) (k : Int) :
    (xs.mergeSort fun a b => decide (key a ≤ key b)).filter (key · == k) =
      xs.filter (key · == k) := by
  have hsame : (xs.filter (key · == k)).Pairwise fun a b => decide (key a ≤ key b) = true := by
    refine List.pairwise_of_forall_mem_list fun a ha b hb => ?_
    have ha : key a = k := by simpa using (List.mem_filter.mp ha).2
    have hb : key b = k := by simpa using (List.mem_filter.mp hb).2
    simp [ha, hb]
  have hsub : (xs.filter (key · == k)).Sublist
      (xs.mergeSort fun a b => decide (key a ≤ key b)) :=
    List.sublist_mergeSort decide_key_le_trans decide_key_le_total hsame List.filter_sublist
  have hfilter := hsub.filter (key · == k)
  rw [List.filter_filter] at hfilter
  simp only [Bool.and_self] at hfilter
  exact (hfilter.eq_of_length ((List.mergeSort_perm ..).filter _).length_eq.symm).symm

/-- What is left out may be left out before or after sorting. -/
theorem filter_mergeSort (p : α → Bool) (xs : List α) :
    (xs.mergeSort fun a b => decide (key a ≤ key b)).filter p =
      (xs.filter p).mergeSort fun a b => decide (key a ≤ key b) := by
  refine eq_of_filter_key_eq ((pairwise_mergeSort_key key xs).filter p)
    (pairwise_mergeSort_key key _) fun k => ?_
  rw [filter_key_mergeSort, List.filter_comm, filter_key_mergeSort, List.filter_comm]

/-- An item that comes first and has the least number stays first. -/
theorem mergeSort_cons_of_le {x : α} (h : ∀ y ∈ xs, key x ≤ key y) :
    ((x :: xs).mergeSort fun a b => decide (key a ≤ key b)) =
      x :: xs.mergeSort fun a b => decide (key a ≤ key b) := by
  have hperm : ∀ zs : List α, (zs.mergeSort fun a b => decide (key a ≤ key b)).Perm zs :=
    fun zs => List.mergeSort_perm ..
  refine eq_of_filter_key_eq (pairwise_mergeSort_key key _) (List.pairwise_cons.mpr
    ⟨fun y hy => h y ((hperm xs).mem_iff.mp hy), pairwise_mergeSort_key key xs⟩) fun k => ?_
  rw [filter_key_mergeSort, List.filter_cons, List.filter_cons, filter_key_mergeSort]

/-- The items with numbers up to some bound come first, as if there were no others. -/
theorem mergeSort_eq_append (p : α → Bool) (h : ∀ x ∈ xs, ∀ y ∈ xs, p x → ¬ p y → key x < key y) :
    (xs.mergeSort fun a b => decide (key a ≤ key b)) =
      ((xs.filter p).mergeSort fun a b => decide (key a ≤ key b)) ++
        (xs.filter (!p ·)).mergeSort fun a b => decide (key a ≤ key b) := by
  refine eq_of_filter_key_eq (pairwise_mergeSort_key key _) (List.pairwise_append.mpr
    ⟨pairwise_mergeSort_key key _, pairwise_mergeSort_key key _, fun x hx y hy => ?_⟩) fun k => ?_
  · obtain ⟨hx, hpx⟩ := List.mem_filter.mp (List.mem_mergeSort.mp hx)
    obtain ⟨hy, hpy⟩ := List.mem_filter.mp (List.mem_mergeSort.mp hy)
    exact (h x hx y hy hpx (by simpa using hpy)).le
  · have hcomm : ∀ q, (xs.filter q).filter (key · == k) = (xs.filter (key · == k)).filter q :=
      fun q => List.filter_comm ..
    rw [List.filter_append, filter_key_mergeSort, filter_key_mergeSort, filter_key_mergeSort, hcomm,
      hcomm]
    -- all items of one number lie on the same side of the bound
    by_cases hk : ∃ x ∈ xs.filter (key · == k), p x
    · obtain ⟨x, hx, hpx⟩ := hk
      obtain ⟨hx, hxk⟩ := List.mem_filter.mp hx
      have hall : ∀ y ∈ xs.filter (key · == k), p y := by
        intro y hy
        obtain ⟨hy, hyk⟩ := List.mem_filter.mp hy
        by_contra hpy
        have hlt := h x hx y hy hpx hpy
        rw [beq_iff_eq] at hxk hyk
        omega
      have hnone : (xs.filter (key · == k)).filter (!p ·) = [] :=
        List.filter_eq_nil_iff.mpr fun y hy => by simp [hall y hy]
      rw [List.filter_eq_self.mpr hall, hnone, List.append_nil]
    · have hall : ∀ y ∈ xs.filter (key · == k), p y = false := by
        intro y hy
        by_contra hpy
        exact hk ⟨y, hy, by simpa using hpy⟩
      have hnone : (xs.filter (key · == k)).filter p = [] :=
        List.filter_eq_nil_iff.mpr fun y hy => by simp [hall y hy]
      have hself : (xs.filter (key · == k)).filter (!p ·) = xs.filter (key · == k) :=
        List.filter_eq_self.mpr fun y hy => by simp [hall y hy]
      rw [hnone, hself, List.nil_append]

end SurveyChecks
