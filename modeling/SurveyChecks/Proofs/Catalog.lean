import Mathlib.Data.List.ProdSigma
import SurveyChecks.Catalog
import SurveyChecks.Proofs.Dataset
import SurveyChecks.Proofs.OrderedMap

/-!
# The catalog of questions

A catalog built from questions lists, under each dataset and scored kind, the names of the questions
of that dataset and kind in ascending order, and nothing under the other kinds.
-/

namespace SurveyChecks.Catalog

open OrderedMap (get? keys)
open Question (inOrder)

/-- A bucket is the place for names of one dataset and kind. -/
abbrev Key := String × QuestionKind

/-- Whether a question is filed under a dataset and a kind. -/
def filed (k : Key) (q : Question) : Bool := q.dataset == k.1 && q.kind == some k.2

/-- Whether the kind of a question is scored. -/
def isScored (q : Question) : Bool := q.kind.any QuestionKind.isScored

/-! ## Filing questions -/

section File

variable {m : OrderedMap Key (List String)} {qs : List Question} {q : Question} {k : Key}

theorem getD_get?_file :
    (get? (file m q) k).getD [] =
      (get? m k).getD [] ++ if filed k q && k.2.isScored then [q.name] else [] := by
  obtain ⟨d, kind⟩ := k
  unfold file filed
  cases hk : q.kind with
  | none => simp
  | some kind' =>
    by_cases hs : kind'.isScored
    · simp only [hs, if_true, OrderedMap.get?_update]
      by_cases heq : (q.dataset, kind') = (d, kind)
      · obtain ⟨rfl, rfl⟩ := Prod.mk.inj heq
        simp [hs]
      · have hne : ¬ (q.dataset = d ∧ kind' = kind) := fun hh => heq (Prod.ext hh.1 hh.2)
        simp only [beq_iff_eq, heq, if_false]
        simp only [Option.some.injEq, Bool.and_eq_true, beq_iff_eq]
        rw [if_neg fun hh => hne hh.1]
        simp
    · simp only [hs, Bool.false_eq_true, if_false]
      by_cases heq : kind' = kind
      · subst heq
        simp [hs]
      · simp [heq]

/-- Filing questions in turn adds their names to their buckets in turn. -/
theorem getD_get?_foldl_file (qs : List Question) (m : OrderedMap Key (List String)) (k : Key) :
    (get? (qs.foldl file m) k).getD [] =
      (get? m k).getD [] ++ if k.2.isScored then (qs.filter (filed k)).map (·.name) else [] := by
  induction qs generalizing m with
  | nil => simp
  | cons q qs ih =>
    rw [List.foldl_cons, ih, getD_get?_file, List.append_assoc]
    congr 1
    by_cases hs : k.2.isScored <;> by_cases hf : filed k q <;> simp [hs, hf]

theorem mem_keys_file (h : k ∈ keys (file m q)) :
    k ∈ keys m ∨ (isScored q = true ∧ k.1 = q.dataset) := by
  unfold file at h
  cases hk : q.kind with
  | none => rw [hk] at h; exact Or.inl h
  | some kind' =>
    rw [hk] at h
    by_cases hs : kind'.isScored
    · simp only [hs, if_true] at h
      rcases OrderedMap.mem_keys_update.mp h with rfl | h
      · exact Or.inr ⟨by simp [isScored, hk, hs], rfl⟩
      · exact Or.inl h
    · simp only [hs, Bool.false_eq_true, if_false] at h
      exact Or.inl h

theorem mem_keys_foldl_file (h : k ∈ keys (qs.foldl file m)) :
    k ∈ keys m ∨ ∃ q ∈ qs, isScored q = true ∧ k.1 = q.dataset := by
  induction qs generalizing m with
  | nil => exact Or.inl h
  | cons q qs ih =>
    rcases ih h with hm | ⟨q', hq', hk⟩
    · rcases mem_keys_file hm with hm | hq
      · exact Or.inl hm
      · exact Or.inr ⟨q, List.mem_cons_self .., hq⟩
    · exact Or.inr ⟨q', List.mem_cons_of_mem _ hq', hk⟩

end File

/-! ## The finished catalog -/

section Finished

variable {qs : List Question} {datasets : List Dataset}

theorem getD_get?_emptyBuckets (names : List String) (k : Key) :
    (get? (OrderedMap.ofPairs (names.flatMap emptyBuckets)) k).getD [] = [] := by
  cases hk : get? (OrderedMap.ofPairs (names.flatMap emptyBuckets)) k with
  | none => rfl
  | some ns =>
    obtain ⟨d, -, hd⟩ := List.mem_flatMap.mp (OrderedMap.mem_of_get?_ofPairs hk)
    obtain ⟨kind, -, heq⟩ := List.mem_map.mp hd
    exact (congrArg Prod.snd heq).symm

/-- What a catalog lists under a dataset and a kind. -/
theorem names_ofQuestions (qs : List Question) (datasets : List Dataset) (d : String)
    (kind : QuestionKind) :
    (ofQuestions qs datasets).names d kind =
      if kind.isScored then ((inOrder qs).filter (filed (d, kind))).map (·.name) else [] := by
  have := getD_get?_foldl_file (inOrder qs)
    (OrderedMap.ofPairs ((datasets.map (·.name)).flatMap emptyBuckets)) (d, kind)
  rw [getD_get?_emptyBuckets, List.nil_append] at this
  exact this

theorem foldl_addDataset {α : Type} [BEq α] {ds names : List α}
    (h : ∀ d ∈ ds, names.contains d = true) : ds.foldl addDataset names = names := by
  induction ds with
  | nil => rfl
  | cons d ds ih =>
    obtain ⟨hd, hds⟩ := List.forall_mem_cons.mp h
    rw [List.foldl_cons, addDataset, if_pos hd]
    exact ih hds

/-- A catalog has the datasets given, when the scored questions are in these datasets. -/
theorem datasets_ofQuestions
    (h : ∀ q ∈ qs, isScored q = true → q.dataset ∈ datasets.map (·.name)) :
    (ofQuestions qs datasets).datasets = datasets.map (·.name) := by
  refine foldl_addDataset fun d hd => List.contains_iff_mem.mpr ?_
  obtain ⟨p, hp, rfl⟩ := List.mem_map.mp hd
  rcases mem_keys_foldl_file (List.mem_map_of_mem (f := Prod.fst) hp) with hk | ⟨q, hq, hs, hk⟩
  · obtain ⟨p', hp', hpp⟩ := OrderedMap.mem_keys_ofPairs.mp hk
    obtain ⟨d', hd', hp'⟩ := List.mem_flatMap.mp hp'
    obtain ⟨kind, -, rfl⟩ := List.mem_map.mp hp'
    rw [← hpp]
    exact hd'
  · rw [hk]
    exact h q (Question.mem_inOrder.mp hq) hs

end Finished

/-! ## Every scored question in one bucket -/

/-- Elements sorted into classes, each class listed once, are the elements of these classes. -/
theorem flatMap_filter_perm {α β : Type} [BEq β] [LawfulBEq β] (f : α → β) (xs : List α) {bs : List β}
    (h : bs.Nodup) :
    (bs.flatMap fun b => xs.filter fun x => f x == b).Perm (xs.filter fun x => bs.contains (f x)) := by
  induction bs with
  | nil => simp
  | cons b bs ih =>
    obtain ⟨hb, hbs⟩ := List.nodup_cons.mp h
    rw [List.flatMap_cons]
    refine ((ih hbs).append_left _).trans ?_
    have hsplit := List.filter_append_perm (fun x => f x == b)
      (xs.filter fun x => (b :: bs).contains (f x))
    rw [List.filter_filter, List.filter_filter] at hsplit
    refine List.Perm.trans (List.Perm.of_eq ?_) hsplit
    congr 1
    · refine List.filter_congr fun x _ => ?_
      by_cases hx : f x = b <;> simp [hx]
    · refine List.filter_congr fun x _ => ?_
      by_cases hx : f x = b
      · simp [hx, hb]
      · simp [hx]

/-- The bucket that a question with a kind belongs to. -/
def key? (q : Question) : Option Key := q.kind.map fun kind => (q.dataset, kind)

theorem filed_eq (k : Key) : filed k = fun q => key? q == some k := by
  obtain ⟨d, kind⟩ := k
  funext q
  unfold filed key?
  cases q.kind with
  | none => simp
  | some kind' =>
    rw [Bool.eq_iff_iff]
    simp

/-- The buckets that a catalog lists: each dataset with each scored kind. -/
def listedKeys (datasets : List Dataset) : List Key :=
  (datasets.map (·.name)).product QuestionKind.scored

theorem nodup_listedKeys {datasets : List Dataset} (h : (datasets.map (·.name)).Nodup) :
    (listedKeys datasets).Nodup :=
  h.product (by decide)

theorem contains_listedKeys {datasets : List Dataset} {q : Question}
    (h : isScored q = true → q.dataset ∈ datasets.map (·.name)) :
    ((listedKeys datasets).map some).contains (key? q) = isScored q := by
  unfold key?
  cases hk : q.kind with
  | none => simp [isScored, hk]
  | some kind =>
    have hq : isScored q = QuestionKind.scored.contains kind := by
      simp [isScored, hk, QuestionKind.isScored]
    rw [Bool.eq_iff_iff]
    simp only [Option.map_some, List.contains_eq_mem, decide_eq_true_eq]
    rw [List.mem_map_of_injective (Option.some_injective _), listedKeys, List.pair_mem_product]
    constructor
    · rintro ⟨-, hs⟩
      rw [hq]
      simpa using hs
    · intro hs
      exact ⟨h hs, by simpa [hq] using hs⟩

/-- The buckets of a catalog together list the names of the scored questions, each once. -/
theorem items_ofQuestions_perm {qs : List Question} {datasets : List Dataset}
    (hnodup : (datasets.map (·.name)).Nodup)
    (h : ∀ q ∈ qs, isScored q = true → q.dataset ∈ datasets.map (·.name)) :
    ((ofQuestions qs datasets).items.flatMap (·.2)).Perm ((qs.filter isScored).map (·.name)) := by
  have hitems : (ofQuestions qs datasets).items.flatMap (·.2) =
      (((listedKeys datasets).map some).flatMap fun b =>
        (inOrder qs).filter fun q => key? q == b).map (·.name) := by
    have hds := datasets_ofQuestions h
    unfold items listedKeys List.product
    rw [hds]
    simp only [List.flatMap_assoc, List.flatMap_map, List.map_flatMap]
    refine List.flatMap_congr fun d _ => List.flatMap_congr fun kind hkind => ?_
    have hs : kind.isScored = true := by simpa [QuestionKind.isScored] using hkind
    rw [names_ofQuestions, if_pos hs, filed_eq]
  have hfilter : ((inOrder qs).filter fun q => ((listedKeys datasets).map some).contains (key? q)) =
      (inOrder qs).filter isScored :=
    List.filter_congr fun q hq => contains_listedKeys (h q (Question.mem_inOrder.mp hq))
  have hkeys : ((listedKeys datasets).map some).Nodup :=
    (nodup_listedKeys hnodup).map (Option.some_injective _)
  rw [hitems]
  refine ((flatMap_filter_perm key? (inOrder qs) hkeys).map _).trans ?_
  rw [hfilter]
  exact ((Question.inOrder_perm qs).filter _).map _

end SurveyChecks.Catalog
