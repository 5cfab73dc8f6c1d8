import SurveyChecks.Proofs.OrderedMap
import SurveyChecks.Report

/-!
# What reports say

A report without duplicate names says that no two questions share a name, so that a question is
found by its name.
-/

namespace SurveyChecks

namespace Report

theorem nodup_of_duplicates_eq_nil {names : List String} (h : duplicates names = []) :
    (names.filter (· != "")).Nodup := by
  refine List.nodup_iff_count_le_one.mpr fun k => ?_
  by_contra hcount
  have htally := OrderedMap.getD_get?_tally (names.filter (· != "")) k
  cases hget : OrderedMap.get? (OrderedMap.tally (names.filter (· != ""))) k with
  | none =>
    rw [hget, Option.getD_none] at htally
    omega
  | some n =>
    rw [hget, Option.getD_some] at htally
    have hmem := OrderedMap.mem_of_get?_eq_some hget
    have hdup : k ∈ duplicates names :=
      List.mem_map.mpr ⟨(k, n), List.mem_filter.mpr ⟨hmem, by simp; omega⟩, rfl⟩
    rw [h] at hdup
    exact List.not_mem_nil hdup

/-! ## Coverage by choice lists -/

theorem mem_ascending {ss : List String} {l : String} : l ∈ ascending ss ↔ l ∈ ss :=
  List.mem_mergeSort

theorem mem_referredLists {qs : List Question} {l : String} :
    l ∈ referredLists qs ↔ (∃ q ∈ qs, q.choiceList? = some l) ∧ l ≠ "" := by
  simp [referredLists]

/-- A list is missing when some question refers to it and no choice is filed under it. -/
theorem mem_missingLists {f : Form} {l : String} :
    l ∈ (ofForm f).missingLists ↔
      ((∃ q ∈ f.questions, q.choiceList? = some l) ∧ l ≠ "") ∧ l ∉ f.choiceLists.keys := by
  rw [← mem_referredLists]
  simp [ofForm, mem_ascending]

/-- A list is unused when choices are filed under it and no question refers to it. -/
theorem mem_unusedLists {f : Form} {l : String} :
    l ∈ (ofForm f).unusedLists ↔
      l ∈ f.choiceLists.keys ∧ ¬ ((∃ q ∈ f.questions, q.choiceList? = some l) ∧ l ≠ "") := by
  rw [← mem_referredLists]
  simp [ofForm, mem_ascending]

/-! ## Duplicate names -/

/-- Without duplicate names, the question of a name that is not empty is found by the name. -/
theorem question?_of_mem {f : Form} (h : (ofForm f).duplicateNames = []) {q : Question}
    (hq : q ∈ f.questions) (hname : q.name ≠ "") : f.question? q.name = some q := by
  have hnone : duplicates (f.questions.map (·.name)) = [] :=
    List.perm_nil.mp (h ▸ (List.mergeSort_perm _ _).symm)
  have hnodup := nodup_of_duplicates_eq_nil hnone
  obtain ⟨before, after, hsplit⟩ := List.append_of_mem hq
  rw [hsplit, List.map_append, List.map_cons, List.filter_append,
    List.filter_cons_of_pos (by simpa using hname)] at hnodup
  refine List.find?_eq_some_iff_append.mpr ⟨by simp, before, after, hsplit, ?_⟩
  intro a ha
  have hne : a.name ≠ q.name := by
    intro heq
    have hin : q.name ∈ (before.map (·.name)).filter (· != "") :=
      List.mem_filter.mpr ⟨heq ▸ List.mem_map_of_mem ha, by simpa using hname⟩
    exact (List.disjoint_of_nodup_append hnodup) hin (List.mem_cons_self ..)
  simpa using hne

end Report

end SurveyChecks
