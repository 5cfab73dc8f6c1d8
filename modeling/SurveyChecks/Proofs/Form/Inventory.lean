import SurveyChecks.Proofs.Form.Partition
import SurveyChecks.Proofs.Report

/-!
# What reports count

The counts of a report on an analysed form agree with each other and with the form: each question is
counted once by kind and once by dataset, the catalog has as many variables as there are questions
of the scored kinds, and the datasets of repeat groups have at least the two rows that open and
close a group.
-/

namespace SurveyChecks

/-! ## Counts by kind and by dataset -/

namespace Report

open Catalog (isScored)

theorem sum_byKind (f : Form) : ((ofForm f).byKind.map (·.2)).sum = (ofForm f).questionCount :=
  (OrderedMap.sum_values_tally _).trans (List.length_map _)

theorem sum_byDataset (f : Form) :
    ((ofForm f).byDataset.map (·.2)).sum = (ofForm f).questionCount :=
  (OrderedMap.sum_values_tally _).trans (List.length_map _)

theorem getD_get?_byKind (f : Form) (w : String) :
    ((ofForm f).byKind.get? w).getD 0 = (f.questions.map kindWord).count w :=
  OrderedMap.getD_get?_tally _ w

theorem getD_get?_byDataset (f : Form) (d : String) :
    ((ofForm f).byDataset.get? d).getD 0 = (f.questions.map (·.dataset)).count d :=
  OrderedMap.getD_get?_tally _ d

theorem mem_keys_byDataset {f : Form} {d : String} :
    d ∈ (ofForm f).byDataset.keys ↔ ∃ q ∈ f.questions, q.dataset = d :=
  OrderedMap.mem_keys_tally.trans List.mem_map

/-- The questions of the scored kinds, counted by the words of these kinds. -/
theorem sum_scored_kindWord (qs : List Question) :
    (QuestionKind.scored.map fun k => (qs.map kindWord).count k.word).sum =
      (qs.filter isScored).length := by
  have hwords : (QuestionKind.scored.map QuestionKind.word).Nodup := by decide
  have hscored : ∀ q : Question,
      (QuestionKind.scored.map QuestionKind.word).contains (kindWord q) = isScored q := by
    intro q
    unfold kindWord isScored
    cases q.kind with
    | none => decide
    | some kind => cases kind <;> decide
  have hperm := Catalog.flatMap_filter_perm kindWord qs hwords
  simp only [hscored] at hperm
  rw [← hperm.length_eq, List.length_flatMap, List.map_map]
  refine congrArg List.sum (List.map_congr_left fun k _ => ?_)
  rw [List.count, List.countP_map, List.countP_eq_length_filter]
  rfl

/-! ## Warnings about datasets -/

/-- The warning that a dataset has no questions. -/
def emptyText (d : String) : String := "Dataset " ++ d ++ " has no questions"

theorem emptyText_injective : Function.Injective emptyText := by
  intro d e h
  unfold emptyText at h
  simpa using h

/-- No listing begins like the warning about a dataset. -/
theorem emptyText_not_mem_listing {heading : String} {names : List String} {d : String} {c : Char}
    (hc : heading.toList[1]? = some c) (hne : c ≠ 'a') : emptyText d ∉ listing heading names := by
  intro h
  have htext : emptyText d = heading ++ ": " ++ ", ".intercalate names := by
    unfold listing at h
    split at h
    · exact absurd h (by simp)
    · exact List.mem_singleton.mp h
  have hsecond : (emptyText d).toList[1]? = some 'a' := by
    unfold emptyText
    rw [String.toList_append, String.toList_append]
    rfl
  have hlen : 1 < heading.toList.length := (List.getElem?_eq_some_iff.mp hc).1
  rw [htext, String.append_assoc, String.toList_append, List.getElem?_append_left hlen, hc] at hsecond
  exact hne (Option.some.inj hsecond)

theorem emptyText_mem_emptyDatasets_iff {f : Form} {d : String} :
    emptyText d ∈ emptyDatasets f.datasets (ofForm f).byDataset ↔
      d ∈ f.datasets.map (·.name) ∧ ∀ q ∈ f.questions, q.dataset ≠ d := by
  have hcount : ∀ e, (((ofForm f).byDataset.get? e).getD 0 == 0) = true ↔
      ∀ q ∈ f.questions, q.dataset ≠ e := by
    intro e
    rw [beq_iff_eq, getD_get?_byDataset, List.count_eq_zero, List.mem_map]
    push Not
    rfl
  unfold emptyDatasets
  simp only [List.mem_map, List.mem_filter, hcount]
  constructor
  · rintro ⟨e, ⟨he, hnone⟩, htext⟩
    have hname : e.name = d := emptyText_injective htext
    exact ⟨⟨e, he, hname⟩, hname ▸ hnone⟩
  · rintro ⟨⟨e, he, rfl⟩, hnone⟩
    exact ⟨e, ⟨he, hnone⟩, rfl⟩

theorem emptyText_mem_warnings_iff {f : Form} {d : String} :
    emptyText d ∈ (ofForm f).warnings ↔
      d ∈ f.datasets.map (·.name) ∧ ∀ q ∈ f.questions, q.dataset ≠ d := by
  have hfirst : emptyText d ∉ if f.questions.isEmpty then ["Instrument has no questions"] else [] := by
    split
    · rw [List.mem_singleton]
      exact fun h => absurd (congrArg (fun s : String => s.toList.head?) h) (by simp [emptyText])
    · exact List.not_mem_nil
  rw [← emptyText_mem_emptyDatasets_iff]
  unfold ofForm
  simp only [List.mem_eraseDups, List.mem_append]
  constructor
  · rintro ((((h | h) | h) | h) | h)
    · exact absurd h hfirst
    · exact absurd h (emptyText_not_mem_listing (c := 'u') (by decide) (by decide))
    · exact absurd h (emptyText_not_mem_listing (c := 'h') (by decide) (by decide))
    · exact absurd h (emptyText_not_mem_listing (c := 'n') (by decide) (by decide))
    · exact h
  · exact Or.inr

end Report

theorem Catalog.size_eq_length (c : Catalog String) : c.size = (c.items.flatMap (·.2)).length := by
  unfold size
  rw [List.length_flatMap, List.sum_eq_foldl]

/-! ## The counts of an analysed form -/

namespace Form

open Question (Ascending)
open Repeat (Matched markersOf)
open RepeatGroup (numbered innermost?)
open Report (emptyText kindWord ofForm)

variable {survey choices : Sheet} {name : String} {f : Form}

/-- The rows that open and close a group are questions of the dataset of the group. -/
structure Bounded (f : Form) (g : RepeatGroup) : Prop where
  opening : ∃ q ∈ f.questions,
    q.base = Question.beginRepeat ∧ q.order = g.first ∧ q.dataset = g.dataset
  closing : ∃ q ∈ f.questions,
    q.base = Question.endRepeat ∧ q.order = g.last ∧ q.dataset = g.dataset

section Analysed

variable {qs : List Question} {ps : List (Int × Int)} {cs : List Choice} {g : RepeatGroup}

theorem dataset_mem_analysed {gs : List RepeatGroup} {q : Question}
    (hq : q ∈ (analysed name cs qs gs).questions) :
    q.dataset ∈ (analysed name cs qs gs).datasets.map (·.name) := by
  obtain ⟨q, -, rfl⟩ := List.mem_map.mp hq
  exact Dataset.place_dataset_mem_build gs q

theorem bounded_analysed (hasc : Ascending qs) (hm : Matched (markersOf qs) ps [])
    (hg : g ∈ numbered qs 1 ps) : Bounded (analysed name cs qs (numbered qs 1 ps)) g := by
  have hms := Repeat.ascending_markersOf hasc
  have hown : ∀ q : Question, g.first = q.order ∨ g.last = q.order →
      (Dataset.place (numbered qs 1 ps) q).dataset = g.dataset := by
    intro q hq
    rw [Dataset.place_dataset, RepeatGroup.innermost?_bound hm hms hg hq]
    exact Dataset.nameAt_of_mem RepeatGroup.pairwise_index_numbered hg
  have hbounds : (g.first, g.last) ∈ ps := RepeatGroup.bounds_mem_of_mem_numbered hg
  obtain ⟨q, hq, hbegin, hfirst⟩ := hm.exists_opener hbounds
  obtain ⟨q', hq', hend, hlast⟩ := hm.exists_closer hbounds
  exact
    { opening := ⟨_, List.mem_map_of_mem hq, hbegin, hfirst, hown q (Or.inl hfirst.symm)⟩
      closing := ⟨_, List.mem_map_of_mem hq', hend, hlast, hown q' (Or.inr hlast.symm)⟩ }

/-- A question is outside the survey just when its group is called otherwise. -/
theorem place_dataset_ne_iff {gs : List RepeatGroup} (hindex : gs.Pairwise (·.index < ·.index))
    (q : Question) :
    (Dataset.place gs q).dataset ≠ surveyDataset ↔
      ∃ g ∈ gs, (Dataset.place gs q).group = some g.index ∧ g.contains q.order ∧
        g.dataset ≠ surveyDataset := by
  have hname : ∀ g ∈ gs, Dataset.nameAt gs (some g.index) = g.dataset := fun g hg =>
    Dataset.nameAt_of_mem hindex hg
  rw [Dataset.place_dataset, Dataset.place_group]
  constructor
  · intro hne
    cases hi : innermost? gs q.order with
    | none =>
      rw [hi] at hne
      exact absurd rfl hne
    | some i =>
      obtain ⟨⟨g, hg, hin, rfl⟩, -⟩ := RepeatGroup.innermost?_eq_some_iff.mp hi
      rw [hi, hname g hg] at hne
      exact ⟨g, hg, rfl, hin, hne⟩
  · rintro ⟨g, hg, hi, -, hne⟩
    rwa [hi, hname g hg]

end Analysed

/-- Two questions are counted for a dataset that has the rows which open and close a group. -/
theorem two_le_count_of_bounded {g : RepeatGroup} (hlt : g.first < g.last) (h : Bounded f g) :
    2 ≤ (f.questions.map (·.dataset)).count g.dataset := by
  obtain ⟨q, hq, -, hfirst, hqd⟩ := h.opening
  obtain ⟨q', hq', -, hlast, hqd'⟩ := h.closing
  have hne : q ≠ q' := by
    rintro rfl
    omega
  have hsub : [q, q'] ⊆ f.questions.filter (·.dataset == g.dataset) := by
    intro p hp
    rcases List.mem_pair.mp hp with rfl | rfl
    · exact List.mem_filter.mpr ⟨hq, by simpa using hqd⟩
    · exact List.mem_filter.mpr ⟨hq', by simpa using hqd'⟩
  have hlen := (List.subperm_of_subset (by simpa using hne) hsub).length_le
  rw [List.count, List.countP_map, List.countP_eq_length_filter]
  exact hlen

/-- The variables of the catalog are the questions of the scored kinds. -/
theorem variableCount_analysed (cs : List Choice) (qs : List Question) (gs : List RepeatGroup) :
    (ofForm (analysed name cs qs gs)).variableCount =
      (QuestionKind.scored.map fun k =>
        ((ofForm (analysed name cs qs gs)).byKind.get? k.word).getD 0).sum := by
  have hin : ∀ q ∈ (analysed name cs qs gs).questions,
      q.dataset ∈ (analysed name cs qs gs).datasets.map (·.name) := fun q hq =>
    dataset_mem_analysed hq
  have hitems : ((analysed name cs qs gs).catalog.items.flatMap (·.2)).Perm
      (((analysed name cs qs gs).questions.filter Catalog.isScored).map (·.name)) :=
    Catalog.items_ofQuestions_perm (Dataset.nodup_build gs) fun q hq _ => hin q hq
  simp only [Report.getD_get?_byKind]
  rw [Report.sum_scored_kindWord]
  exact (Catalog.size_eq_length _).trans (hitems.length_eq.trans (List.length_map _))

/-- The report on an analysed form agrees with the form. Every question is counted once by its kind
and once by its dataset; the variables of the catalog are the questions of the scored kinds; the
datasets counted are datasets of the form. Every dataset other than the survey has the rows that
open and close a group of its name, so only the survey can be reported as empty, and is when the
group of every question, the innermost one around it, is called otherwise. -/
theorem parse_report_agrees (h : parse survey choices name = .ok f) :
    ((ofForm f).byKind.map (·.2)).sum = (ofForm f).questionCount ∧
    ((ofForm f).byDataset.map (·.2)).sum = (ofForm f).questionCount ∧
    (ofForm f).variableCount =
      (QuestionKind.scored.map fun k => ((ofForm f).byKind.get? k.word).getD 0).sum ∧
    (∀ d ∈ (ofForm f).byDataset.keys, d ∈ f.datasets.map (·.name)) ∧
    (∀ d ∈ f.datasets, d.name ≠ surveyDataset →
      2 ≤ ((ofForm f).byDataset.get? d.name).getD 0 ∧
        ∃ g ∈ f.groups, g.dataset = d.name ∧ Bounded f g) ∧
    (∀ d, d ≠ surveyDataset → emptyText d ∉ (ofForm f).warnings) ∧
    (emptyText surveyDataset ∈ (ofForm f).warnings ↔
      ∀ q ∈ f.questions, ∃ g ∈ f.groups,
        q.group = some g.index ∧ g.contains q.order ∧ g.dataset ≠ surveyDataset) := by
  obtain ⟨-, cs, ps, -, hm, rfl⟩ := parse_eq_ok_iff_matched.mp h
  set qs := Question.ofRows survey.columns survey.rows
  set gs := numbered qs 1 ps
  set f := analysed name cs qs gs
  have hasc : Ascending qs := Question.ascending_ofRows ..
  have hms := Repeat.ascending_markersOf hasc
  have hbounded : ∀ d ∈ f.datasets.map (·.name), d ≠ surveyDataset →
      ∃ g ∈ gs, g.dataset = d ∧ Bounded f g := by
    intro d hd hne
    obtain ⟨g, hg, hgd⟩ := (Dataset.mem_map_name_build_iff.mp hd).resolve_left hne
    exact ⟨g, hg, hgd, bounded_analysed hasc hm hg⟩
  refine ⟨Report.sum_byKind f, Report.sum_byDataset f, variableCount_analysed cs qs gs, ?names,
    ?two, ?others, ?survey⟩
  case names =>
    intro d hd
    obtain ⟨q, hq, rfl⟩ := Report.mem_keys_byDataset.mp hd
    exact dataset_mem_analysed hq
  case two =>
    intro d hd hne
    obtain ⟨g, hg, hgd, hb⟩ := hbounded d.name (List.mem_map_of_mem hd) hne
    have hlt : g.first < g.last := RepeatGroup.first_lt_last hm hms hg
    refine ⟨?_, g, hg, hgd, hb⟩
    rw [Report.getD_get?_byDataset, ← hgd]
    exact two_le_count_of_bounded hlt hb
  case others =>
    intro d hne hmem
    obtain ⟨hd, hnone⟩ := Report.emptyText_mem_warnings_iff.mp hmem
    obtain ⟨g, -, hgd, hb⟩ := hbounded d hd hne
    obtain ⟨q, hq, -, -, hqd⟩ := hb.opening
    exact hnone q hq (hqd.trans hgd)
  case survey =>
    have hsurvey : surveyDataset ∈ f.datasets.map (·.name) :=
      Dataset.mem_map_name_build_iff.mpr (Or.inl rfl)
    have hindex : gs.Pairwise (·.index < ·.index) := RepeatGroup.pairwise_index_numbered
    rw [Report.emptyText_mem_warnings_iff, and_iff_right hsurvey]
    constructor
    · intro hnone q hq
      have hne := hnone q hq
      obtain ⟨q, -, rfl⟩ := List.mem_map.mp hq
      exact (place_dataset_ne_iff hindex q).mp hne
    · intro hgroup q hq
      have hown := hgroup q hq
      obtain ⟨q, -, rfl⟩ := List.mem_map.mp hq
      exact (place_dataset_ne_iff hindex q).mpr hown

theorem parse_report_agrees_nestedSurvey :
    parse nestedSurvey noChoices "nested" = .ok (nestedForm "nested") ∧
    ((ofForm (nestedForm "nested")).byDataset.map (·.2)).sum = 10 ∧
    2 ≤ ((ofForm (nestedForm "nested")).byDataset.get? "jobs").getD 0 ∧
    emptyText "jobs" ∉ (ofForm (nestedForm "nested")).warnings ∧
    emptyText surveyDataset ∉ (ofForm (nestedForm "nested")).warnings := by
  have hparse := parse_nestedSurvey "nested"
  obtain ⟨-, hsum, -, -, htwo, hothers, hsurvey⟩ := parse_report_agrees hparse
  have hjobs : (⟨"jobs", "jobs", some 1⟩ : Dataset) ∈ (nestedForm "nested").datasets := by
    decide +kernel
  refine ⟨hparse, hsum.trans rfl, (htwo _ hjobs (by decide)).1, hothers _ (by decide), ?_⟩
  rw [hsurvey]
  decide +kernel

/-- A group that is called after the survey, inside a group that is not. -/
def enclosedSurvey : Sheet :=
  ⟨"survey", ["type", "name", "label"],
    [surveyRow "begin repeat" "r1" "x", surveyRow "begin repeat" "r2" "survey",
     surveyRow "integer" "a" "", surveyRow "end repeat" "" "", surveyRow "end repeat" "" ""]⟩

/-- The analysis of the two groups. -/
def enclosedForm : Form :=
  analysed "enclosed" [] (Question.ofRows enclosedSurvey.columns enclosedSurvey.rows)
    (RepeatGroup.numbered (Question.ofRows enclosedSurvey.columns enclosedSurvey.rows) 1
      [(1, 5), (2, 4)])

theorem parse_enclosedSurvey : parse enclosedSurvey noChoices "enclosed" = .ok enclosedForm := by
  have hmarkers : Repeat.markersOf (Question.ofRows enclosedSurvey.columns enclosedSurvey.rows) =
      [⟨.opening, 1⟩, ⟨.opening, 2⟩, ⟨.closing, 4⟩, ⟨.closing, 5⟩] := by
    decide +kernel
  refine parse_eq_ok_iff_matched.mpr
    ⟨⟨rfl, Question.legible_of_isTextual rfl⟩, [], _, rfl, ?_, rfl⟩
  rw [hmarkers]
  exact .opening 1 (.opening 2 (.closing 4 (.closing 5 .nil)))

/-- It is not enough for the survey to be reported as empty that every question lies in some group
that is called otherwise: another group may stand in between. -/
theorem not_reported_empty_of_enclosed :
    parse enclosedSurvey noChoices "enclosed" = .ok enclosedForm ∧
    (∀ q ∈ enclosedForm.questions, ∃ g ∈ enclosedForm.groups,
      g.contains q.order ∧ g.dataset ≠ surveyDataset) ∧
    emptyText surveyDataset ∉ (ofForm enclosedForm).warnings :=
  ⟨parse_enclosedSurvey, by decide +kernel, by decide +kernel⟩

end Form

end SurveyChecks
