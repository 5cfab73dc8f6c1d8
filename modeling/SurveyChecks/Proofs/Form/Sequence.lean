import SurveyChecks.Proofs.Form.ChoiceLists
import SurveyChecks.Proofs.Form.Partition

/-!
# Orders alone decide

The questions of a form and its choices may be listed in any sequence as long as their orders are
distinct: the groups, the group and the dataset of every question, the catalog and the choice lists
are the same, and so is the error when the groups cannot be found.
-/

namespace SurveyChecks

namespace Question

variable {qs qs' : List Question}

/-- Two lists have the same questions in whatever sequence, and a question is known by its order. -/
def SameByOrder (qs qs' : List Question) : Prop :=
  qs.Perm qs' ∧ ∀ q ∈ qs, ∀ q' ∈ qs', q.order = q'.order → q = q'

theorem DistinctOrders.perm (h : DistinctOrders qs) (hperm : qs.Perm qs') : DistinctOrders qs' :=
  (hperm.map _).nodup_iff.mp h

theorem DistinctOrders.sameByOrder (h : DistinctOrders qs) (hperm : qs.Perm qs') :
    SameByOrder qs qs' :=
  ⟨hperm, fun _ hq _ hq' ho => h.eq_of_order_eq hq (hperm.mem_iff.mpr hq') ho⟩

theorem DistinctOrders.map (h : DistinctOrders qs) (f : Question → Question)
    (hf : ∀ q, (f q).order = q.order) : DistinctOrders (qs.map f) := by
  have horder : (·.order) ∘ f = (·.order) := funext hf
  rw [DistinctOrders, List.map_map, horder]
  exact h

/-- What is done to each question by itself, its order aside, is done in any sequence. -/
theorem DistinctOrders.sameByOrder_map (h : DistinctOrders qs) (hperm : qs.Perm qs')
    (f : Question → Question) (hf : ∀ q, (f q).order = q.order) :
    SameByOrder (qs.map f) (qs'.map f) :=
  (h.map f hf).sameByOrder (hperm.map f)

theorem inOrder_eq_of_perm (h : DistinctOrders qs) (hperm : qs.Perm qs') :
    inOrder qs = inOrder qs' :=
  mergeSort_eq_of_perm hperm h

end Question

open Question (DistinctOrders SameByOrder)

/-! ## Groups -/

namespace RepeatGroup

variable {qs qs' : List Question}

theorem questionAt?_eq_of_perm (h : DistinctOrders qs) (hperm : qs.Perm qs') (o : Int) :
    questionAt? qs o = questionAt? qs' o := by
  refine Option.ext fun q => ?_
  rw [questionAt?_eq_some_iff h, questionAt?_eq_some_iff (h.perm hperm), hperm.mem_iff]

theorem resolve_eq_of_perm (h : DistinctOrders qs) (hperm : qs.Perm qs') :
    resolve qs = resolve qs' := by
  have hmarkers : ∀ kind, Repeat.markers kind qs = Repeat.markers kind qs' := by
    intro kind
    unfold Repeat.markers
    rw [Question.inOrder_eq_of_perm h hperm]
  have hbetween : between qs = between qs' := by
    funext n bounds
    unfold between
    rw [questionAt?_eq_of_perm h hperm]
  unfold resolve
  rw [hmarkers, hmarkers, hbetween]

end RepeatGroup

/-! ## Datasets -/

namespace Dataset

variable {gs : List RepeatGroup} {qs qs' ps : List Question}

theorem unknownGroup?_eq_none_iff :
    unknownGroup? gs qs = none ↔ ∀ q ∈ qs, (nameFor? gs q).isSome := by
  unfold unknownGroup?
  rw [List.findSome?_eq_none_iff]
  refine forall₂_congr fun q _ => ?_
  cases hname : nameFor? gs q with
  | some d => simp
  | none =>
    cases hgroup : q.group with
    | some i => simp
    | none => simp [nameFor?, hgroup] at hname

/-- A question with the dataset of its group, which must exist. -/
def withDataset (gs : List RepeatGroup) (q : Question) : Question :=
  { q with dataset := (nameFor? gs q).getD "" }

theorem assignUntilUnknown_eq_map (h : ∀ q ∈ qs, (nameFor? gs q).isSome) :
    assignUntilUnknown gs qs = qs.map (withDataset gs) := by
  induction qs with
  | nil => rfl
  | cons q qs ih =>
    obtain ⟨d, hd⟩ := Option.isSome_iff_exists.mp (h q (List.mem_cons_self ..))
    rw [assignUntilUnknown, hd, ih fun q' hq' => h q' (List.mem_cons_of_mem _ hq'), List.map_cons,
      withDataset, hd]
    rfl

/-- Questions can be assigned their datasets just when their groups exist. -/
theorem assign_eq_ok_iff :
    assign gs qs = .ok ps ↔
      (∀ q ∈ qs, (nameFor? gs q).isSome) ∧ ps = qs.map (withDataset gs) := by
  rw [← unknownGroup?_eq_none_iff]
  unfold assign
  cases hunknown : unknownGroup? gs qs with
  | some i => simp
  | none =>
    rw [assignUntilUnknown_eq_map (unknownGroup?_eq_none_iff.mp hunknown)]
    simp [eq_comm]

/-- In another sequence, questions can be assigned their datasets as well, and get the same ones. -/
theorem exists_assign_of_perm (h : DistinctOrders qs) (hperm : qs.Perm qs')
    (hps : assign gs qs = .ok ps) : ∃ ps', assign gs qs' = .ok ps' ∧ SameByOrder ps ps' := by
  obtain ⟨hknown, rfl⟩ := assign_eq_ok_iff.mp hps
  have hknown' : ∀ q ∈ qs', (nameFor? gs q).isSome := fun q hq =>
    hknown q (hperm.mem_iff.mpr hq)
  exact ⟨_, assign_eq_ok_iff.mpr ⟨hknown', rfl⟩,
    h.sameByOrder_map hperm (withDataset gs) fun _ => rfl⟩

end Dataset

/-! ## The steps of an analysis -/

namespace Form

/-- The orders of questions are all that the steps of an analysis know of their sequence. From the
same questions in another sequence come the same groups or the same error; every question gets the
same group and, as soon as its group exists, the same dataset; and whatever datasets are given, the
catalog is the same. The choice lists do not depend on the sequence of the choices either. -/
theorem steps_eq_of_perm :
    (∀ qs qs' : List Question, qs.Perm qs' → DistinctOrders qs →
      RepeatGroup.resolve qs = RepeatGroup.resolve qs' ∧
      (∀ gs, SameByOrder (RepeatGroup.assign gs qs) (RepeatGroup.assign gs qs')) ∧
      (∀ gs ps, Dataset.assign gs qs = .ok ps →
        ∃ ps', Dataset.assign gs qs' = .ok ps' ∧ SameByOrder ps ps') ∧
      (∀ gs, ∃ ps ps', Dataset.assign gs (RepeatGroup.assign gs qs) = .ok ps ∧
        Dataset.assign gs (RepeatGroup.assign gs qs') = .ok ps' ∧ SameByOrder ps ps' ∧
        ∀ datasets, Catalog.ofQuestions ps datasets = Catalog.ofQuestions ps' datasets) ∧
      ∀ datasets, Catalog.ofQuestions qs datasets = Catalog.ofQuestions qs' datasets) ∧
    ∀ cs cs' : List Choice, cs.Perm cs' → (cs.map (·.order)).Nodup →
      Choice.lists cs = Choice.lists cs' := by
  have hcatalog : ∀ (qs qs' : List Question), qs.Perm qs' → DistinctOrders qs → ∀ datasets,
      Catalog.ofQuestions qs datasets = Catalog.ofQuestions qs' datasets := by
    intro qs qs' hperm h datasets
    unfold Catalog.ofQuestions
    rw [Question.inOrder_eq_of_perm h hperm]
  constructor
  · intro qs qs' hperm h
    refine ⟨RepeatGroup.resolve_eq_of_perm h hperm, ?groups, ?datasets, ?placed,
      hcatalog qs qs' hperm h⟩
    case groups =>
      intro gs
      exact h.sameByOrder_map hperm _ fun _ => rfl
    case datasets =>
      intro gs ps hps
      exact Dataset.exists_assign_of_perm h hperm hps
    case placed =>
      intro gs
      exact ⟨_, _, Dataset.assign_assign gs qs, Dataset.assign_assign gs qs',
        h.sameByOrder_map hperm (Dataset.place gs) fun _ => rfl,
        hcatalog _ _ (hperm.map _) (h.map (Dataset.place gs) fun _ => rfl)⟩
  · intro cs cs' hperm h
    unfold Choice.lists Choice.inOrder
    rw [mergeSort_eq_of_perm hperm h]

/-- The rows of three nested groups from the last to the first, and options of two lists. -/
theorem steps_eq_of_perm_nestedSurvey :
    DistinctOrders (nestedForm "nested").questions ∧
      RepeatGroup.resolve (nestedForm "nested").questions =
        RepeatGroup.resolve (nestedForm "nested").questions.reverse ∧
      Choice.lists [⟨"yn", 1, "Yes", 1⟩, ⟨"hue", 2, "Red", 2⟩, ⟨"yn", 1, "Oui", 3⟩] =
        Choice.lists [⟨"yn", 1, "Oui", 3⟩, ⟨"yn", 1, "Yes", 1⟩, ⟨"hue", 2, "Red", 2⟩] := by
  have hdistinct : DistinctOrders (nestedForm "nested").questions :=
    (parse_partitions (parse_nestedSurvey "nested")).2.2.2.1.distinctOrders
  have hquestions := steps_eq_of_perm.1 _ _ (List.reverse_perm _).symm hdistinct
  refine ⟨hdistinct, hquestions.1, steps_eq_of_perm.2 _ _ ?_ (by decide)⟩
  exact (List.perm_append_comm : ([⟨"yn", 1, "Yes", 1⟩, ⟨"hue", 2, "Red", 2⟩] ++ _ : List Choice).Perm _)

end Form

end SurveyChecks
