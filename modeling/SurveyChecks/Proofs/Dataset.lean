import SurveyChecks.Dataset
import SurveyChecks.Proofs.Repeat.Laminar

/-!
# The datasets of groups and questions

Every question that has been assigned a group finds its dataset, and the datasets of a form are one
for each name, the survey first.
-/

namespace SurveyChecks.Dataset

open RepeatGroup (innermost?)

/-! ## The dataset of a question -/

section Question

variable {gs : List RepeatGroup} {qs : List Question}

/-- The name of the dataset of an existing group, that of the survey outside all groups. -/
def nameAt (gs : List RepeatGroup) : Option Int → String
  | none => surveyDataset
  | some i => ((gs.reverse.find? (·.index == i)).map (·.dataset)).getD surveyDataset

/-- A question with the innermost group around it and the dataset of that group. -/
def place (gs : List RepeatGroup) (q : Question) : Question :=
  { q with group := innermost? gs q.order, dataset := nameAt gs (innermost? gs q.order) }

@[simp] theorem place_name (gs : List RepeatGroup) (q : Question) : (place gs q).name = q.name := rfl

@[simp] theorem place_order (gs : List RepeatGroup) (q : Question) :
    (place gs q).order = q.order := rfl

@[simp] theorem place_kind (gs : List RepeatGroup) (q : Question) : (place gs q).kind = q.kind := rfl

@[simp] theorem place_group (gs : List RepeatGroup) (q : Question) :
    (place gs q).group = innermost? gs q.order := rfl

@[simp] theorem place_dataset (gs : List RepeatGroup) (q : Question) :
    (place gs q).dataset = nameAt gs (innermost? gs q.order) := rfl

theorem exists_of_innermost?_eq_some {o i : Int} (h : innermost? gs o = some i) :
    ∃ g, gs.reverse.find? (·.index == i) = some g := by
  obtain ⟨⟨g, hg, -, hgi⟩, -⟩ := RepeatGroup.innermost?_eq_some_iff.mp h
  exact Option.isSome_iff_exists.mp
    (List.find?_isSome.mpr ⟨g, by simpa using hg, by simpa using hgi⟩)

theorem nameFor?_innermost (gs : List RepeatGroup) (q : Question) :
    nameFor? gs { q with group := innermost? gs q.order } =
      some (nameAt gs (innermost? gs q.order)) := by
  unfold nameFor? nameAt
  cases hi : innermost? gs q.order with
  | none => rfl
  | some i =>
    obtain ⟨g, hg⟩ := exists_of_innermost?_eq_some hi
    simp [hg]

theorem assignUntilUnknown_assign (gs : List RepeatGroup) (qs : List Question) :
    assignUntilUnknown gs (RepeatGroup.assign gs qs) = qs.map (place gs) := by
  unfold RepeatGroup.assign
  induction qs with
  | nil => rfl
  | cons q qs ih =>
    simp only [List.map_cons, assignUntilUnknown, nameFor?_innermost, ih]
    rfl

/-- Questions that have been assigned their groups can always be assigned their datasets. -/
theorem assign_assign (gs : List RepeatGroup) (qs : List Question) :
    assign gs (RepeatGroup.assign gs qs) = .ok (qs.map (place gs)) := by
  have hknown : unknownGroup? gs (RepeatGroup.assign gs qs) = none := by
    unfold unknownGroup? RepeatGroup.assign
    rw [List.findSome?_eq_none_iff]
    intro q hq
    obtain ⟨q, -, rfl⟩ := List.mem_map.mp hq
    simp [nameFor?_innermost]
  simp [assign, hknown, assignUntilUnknown_assign]

theorem nameAt_mem (gs : List RepeatGroup) (i : Option Int) :
    nameAt gs i = surveyDataset ∨ ∃ g ∈ gs, nameAt gs i = g.dataset := by
  cases i with
  | none => exact Or.inl rfl
  | some i =>
    unfold nameAt
    cases hg : gs.reverse.find? (·.index == i) with
    | none => exact Or.inl (by simp [hg])
    | some g =>
      have hmem : g ∈ gs := by simpa using List.mem_of_find?_eq_some hg
      exact Or.inr ⟨g, hmem, by simp [hg]⟩

/-- Groups of different indices are found by their index. -/
theorem nameAt_of_mem (h : gs.Pairwise (·.index < ·.index)) {g : RepeatGroup} (hg : g ∈ gs) :
    nameAt gs (some g.index) = g.dataset := by
  unfold nameAt
  cases hf : gs.reverse.find? (·.index == g.index) with
  | none =>
    have := List.find?_eq_none.mp hf g (by simpa using hg)
    simp at this
  | some g' =>
    have hmem : g' ∈ gs.reverse := List.mem_of_find?_eq_some hf
    have hi : g'.index = g.index := by simpa using List.find?_some hf
    have hnodup : (gs.map (·.index)).Nodup :=
      List.pairwise_map.mpr (h.imp fun hab => ne_of_lt hab)
    have : g' = g := List.inj_on_of_nodup_map hnodup (by simpa using hmem) hg hi
    simp [hf, this]

end Question

/-! ## First occurrences by name -/

section FirstOfEachName

/-- The first dataset of each name. -/
def firstOfEachName : List Dataset → List Dataset
  | [] => []
  | d :: ds => d :: (firstOfEachName ds).filter fun d' => d'.name != d.name

theorem filter_name_ne_of_not_mem {d : Dataset} {ds : List Dataset} (h : d.name ∉ ds.map (·.name)) :
    ds.filter (fun d' => d'.name != d.name) = ds := by
  refine List.filter_eq_self.mpr fun d' hd' => ?_
  have hne : d'.name ≠ d.name := fun heq => h (List.mem_map.mpr ⟨d', hd', heq⟩)
  simpa using hne

theorem firstOfEachName_of_nodup {ds : List Dataset} (h : (ds.map (·.name)).Nodup) :
    firstOfEachName ds = ds := by
  induction ds with
  | nil => rfl
  | cons d ds ih =>
    obtain ⟨hd, hds⟩ := List.nodup_cons.mp h
    rw [firstOfEachName, ih hds, filter_name_ne_of_not_mem hd]

/-- Of two lists without repetitions, the first is kept, and of the second what is new. -/
theorem firstOfEachName_append {ds ds' : List Dataset} (h : (ds.map (·.name)).Nodup)
    (h' : (ds'.map (·.name)).Nodup) :
    firstOfEachName (ds ++ ds') =
      ds ++ ds'.filter fun d => !(ds.map (·.name)).contains d.name := by
  induction ds with
  | nil => simpa using firstOfEachName_of_nodup h'
  | cons d ds ih =>
    obtain ⟨hd, hds⟩ := List.nodup_cons.mp h
    rw [List.cons_append, firstOfEachName, ih hds, List.filter_append, List.filter_filter,
      filter_name_ne_of_not_mem hd, List.cons_append]
    congr 2
    refine List.filter_congr fun d' _ => ?_
    simp [bne, Bool.beq_eq_decide_eq]

end FirstOfEachName

/-! ## The datasets of a form -/

section Build

variable {gs : List RepeatGroup} {seen seen' : List String}

/-- The new names are those of the groups that have not been seen. -/
theorem mem_map_dataset_newNamed {n : String} :
    n ∈ (newNamed seen gs).map (·.dataset) ↔ n ∉ seen ∧ ∃ g ∈ gs, g.dataset = n := by
  fun_induction newNamed seen gs with
  | case1 seen => simp
  | case2 seen g gs hs ih =>
    have hseen : g.dataset ∈ seen := by simpa using hs
    rw [ih]
    refine and_congr_right fun hn => ?_
    have hne : g.dataset ≠ n := fun heq => hn (heq ▸ hseen)
    simp [hne]
  | case3 seen g gs hs ih =>
    have hnew : g.dataset ∉ seen := by simpa using hs
    rw [List.map_cons, List.mem_cons, ih]
    by_cases heq : n = g.dataset
    · subst heq
      simp [hnew]
    · simp [heq, Ne.symm heq]

theorem not_seen_of_mem_newNamed {g : RepeatGroup} (hg : g ∈ newNamed seen gs) :
    g.dataset ∉ seen :=
  (mem_map_dataset_newNamed.mp (List.mem_map_of_mem hg)).1

theorem nodup_newNamed (seen : List String) (gs : List RepeatGroup) :
    ((newNamed seen gs).map (·.dataset)).Nodup := by
  fun_induction newNamed seen gs with
  | case1 seen => exact List.nodup_nil
  | case2 seen g gs hs ih => exact ih
  | case3 seen g gs hs ih =>
    rw [List.map_cons, List.nodup_cons]
    exact ⟨fun hin => (mem_map_dataset_newNamed.mp hin).1 (List.mem_cons_self ..), ih⟩

/-- Of more names seen before, the new groups are those that are new among fewer and still unseen.
-/
theorem newNamed_eq_filter (h : ∀ d ∈ seen, d ∈ seen') :
    newNamed seen' gs = (newNamed seen gs).filter fun g => !seen'.contains g.dataset := by
  fun_induction newNamed seen gs generalizing seen' with
  | case1 seen => rfl
  | case2 seen g gs hs ih =>
    have hs' : seen'.contains g.dataset := by simpa using h _ (by simpa using hs)
    rw [newNamed, if_pos hs']
    exact ih h
  | case3 seen g gs hs ih =>
    by_cases hs' : seen'.contains g.dataset
    · rw [newNamed, if_pos hs', List.filter_cons_of_neg (by simpa using hs')]
      exact ih (List.forall_mem_cons.mpr ⟨by simpa using hs', h⟩)
    · have hcons : ∀ d ∈ g.dataset :: seen, d ∈ g.dataset :: seen' := fun d hd =>
        List.cons_subset_cons _ h hd
      rw [newNamed, if_neg hs', List.filter_cons_of_pos (by simpa using hs'), ih hcons]
      refine congrArg (g :: ·) (List.filter_congr fun g' hg' => ?_)
      have hne : g'.dataset ≠ g.dataset := fun heq =>
        not_seen_of_mem_newNamed hg' (heq ▸ List.mem_cons_self ..)
      simp [hne]

theorem newNamed_congr (h : ∀ d, d ∈ seen ↔ d ∈ seen') : newNamed seen gs = newNamed seen' gs := by
  have hsub : ∀ d ∈ seen, d ∈ seen' := fun d hd => (h d).mp hd
  rw [newNamed_eq_filter hsub]
  refine (List.filter_eq_self.mpr fun g hg => ?_).symm
  have := not_seen_of_mem_newNamed hg
  simpa [h] using this

/-- The new groups of a list that goes on: the names of its first part are seen by then. -/
theorem newNamed_append (gs gs' : List RepeatGroup) :
    newNamed seen (gs ++ gs') =
      newNamed seen gs ++ newNamed ((newNamed seen gs).map (·.dataset) ++ seen) gs' := by
  induction gs generalizing seen with
  | nil => simp [newNamed]
  | cons g gs ih =>
    simp only [List.cons_append, newNamed]
    by_cases hs : seen.contains g.dataset
    · simp only [hs, if_true]
      exact ih
    · simp only [hs, if_false, Bool.false_eq_true, List.cons_append, List.map_cons]
      rw [ih]
      congr 2
      refine newNamed_congr fun d => ?_
      simp only [List.mem_append, List.mem_cons]
      tauto

theorem map_name_build (gs : List RepeatGroup) :
    (build gs).map (·.name) =
      surveyDataset :: (newNamed [surveyDataset] gs).map (·.dataset) := by
  simp [build, survey, ofGroup, Function.comp_def]

theorem nodup_build (gs : List RepeatGroup) : ((build gs).map (·.name)).Nodup := by
  rw [map_name_build, List.nodup_cons]
  refine ⟨fun hin => ?_, nodup_newNamed _ _⟩
  obtain ⟨g, hg, heq⟩ := List.mem_map.mp hin
  exact not_seen_of_mem_newNamed hg (by simp [heq])

/-- The datasets of groups that go on are the first of each name among those of both parts. -/
theorem build_append (gs gs' : List RepeatGroup) :
    build (gs ++ gs') = firstOfEachName (build gs ++ build gs') := by
  have hnew : newNamed ((newNamed [surveyDataset] gs).map (·.dataset) ++ [surveyDataset]) gs' =
      (newNamed [surveyDataset] gs').filter fun g =>
        !((build gs).map (·.name)).contains g.dataset := by
    have hsub : ∀ d ∈ [surveyDataset],
        d ∈ (newNamed [surveyDataset] gs).map (·.dataset) ++ [surveyDataset] :=
      fun d hd => List.mem_append_right _ hd
    rw [newNamed_eq_filter hsub]
    refine List.filter_congr fun g _ => ?_
    rw [map_name_build]
    simp [Bool.and_comm]
  rw [firstOfEachName_append (nodup_build gs) (nodup_build gs')]
  unfold build at hnew ⊢
  rw [newNamed_append, hnew, List.map_append, List.filter_cons_of_neg (by simp), List.filter_map]
  rfl

theorem mem_map_name_build_iff {d : String} :
    d ∈ (build gs).map (·.name) ↔ d = surveyDataset ∨ ∃ g ∈ gs, g.dataset = d := by
  rw [map_name_build, List.mem_cons, mem_map_dataset_newNamed, List.mem_singleton]
  by_cases hd : d = surveyDataset <;> simp [hd]

/-- The dataset of every question is one of the datasets of the form. -/
theorem place_dataset_mem_build (gs : List RepeatGroup) (q : Question) :
    (place gs q).dataset ∈ (build gs).map (·.name) :=
  mem_map_name_build_iff.mpr <| (nameAt_mem gs (innermost? gs q.order)).imp_right
    fun ⟨g, hg, hname⟩ => ⟨g, hg, hname.symm⟩

end Build

end SurveyChecks.Dataset
