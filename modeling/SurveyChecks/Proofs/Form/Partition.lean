import SurveyChecks.Proofs.Form.Analysis

/-!
# The catalog partitions the questions

In an analysed form every question lies in one of the datasets, and the catalog lists each question
of a scored kind once, in the bucket of its dataset and kind.
-/

namespace SurveyChecks.Form

open Catalog (filed isScored)
open Question (Ascending)

variable {survey choices : Sheet} {name : String} {f : Form}

theorem ascending_place {qs : List Question} (h : Ascending qs) (gs : List RepeatGroup) :
    Ascending (qs.map (Dataset.place gs)) :=
  List.Pairwise.map _ (fun _ _ hab => hab) h

/-- The catalog of an analysed form lists the questions in the sequence of the form. -/
theorem names_analysed {cs : List Choice} {qs : List Question} {gs : List RepeatGroup}
    (h : Ascending qs) (d : String) (kind : QuestionKind) :
    (analysed name cs qs gs).catalog.names d kind =
      if kind.isScored then
        ((qs.map (Dataset.place gs)).filter (filed (d, kind))).map (·.name)
      else [] := by
  have := Catalog.names_ofQuestions (qs.map (Dataset.place gs)) (Dataset.build gs) d kind
  rw [(ascending_place h gs).inOrder_eq] at this
  exact this

/-- Analysing a form partitions its questions. The dataset names are distinct, the survey first, and
are the datasets of the catalog; every question is in one of them. Under a dataset and a scored kind
the catalog lists the names of just the questions of that dataset and kind, in the sequence of the
sheet, and nothing under the other kinds, so that its buckets together list every question of a
scored kind once. -/
theorem parse_partitions (h : parse survey choices name = .ok f) :
    (f.datasets.map (·.name)).Nodup ∧
    (f.datasets.map (·.name)).head? = some surveyDataset ∧
    f.catalog.datasets = f.datasets.map (·.name) ∧
    Ascending f.questions ∧
    (∀ q ∈ f.questions, q.dataset ∈ f.datasets.map (·.name)) ∧
    (∀ d kind, f.catalog.names d kind =
      if kind ∈ QuestionKind.scored then
        (f.questions.filter fun q => q.dataset = d ∧ q.kind = some kind).map (·.name)
      else []) ∧
    (f.catalog.items.flatMap (·.2)).Perm
      ((f.questions.filter fun q => ∃ kind ∈ QuestionKind.scored, q.kind = some kind).map
        (·.name)) := by
  obtain ⟨cs, qs, gs, -, hq, -, rfl⟩ := parse_eq_ok_iff.mp h
  obtain ⟨-, rfl⟩ := loadQuestions_eq_ok_iff.mp hq
  have hasc := Question.ascending_ofRows survey.columns survey.rows
  have hin : ∀ q ∈ (Question.ofRows survey.columns survey.rows).map (Dataset.place gs),
      q.dataset ∈ (Dataset.build gs).map (·.name) := by
    intro q hq
    obtain ⟨q, -, rfl⟩ := List.mem_map.mp hq
    exact Dataset.place_dataset_mem_build gs q
  refine ⟨Dataset.nodup_build gs, ?_, ?_, ascending_place hasc gs, hin, ?_, ?_⟩
  · show ((Dataset.build gs).map (·.name)).head? = some surveyDataset
    rw [Dataset.map_name_build]
    rfl
  · exact Catalog.datasets_ofQuestions fun q hq _ => hin q hq
  · intro d kind
    rw [names_analysed hasc]
    by_cases hs : kind ∈ QuestionKind.scored
    · rw [if_pos hs, if_pos (by simpa [QuestionKind.isScored] using hs)]
      congr 1
      refine List.filter_congr fun q _ => ?_
      rw [Bool.eq_iff_iff]
      simp [filed]
    · rw [if_neg hs, if_neg (by simpa [QuestionKind.isScored] using hs)]
  · have := Catalog.items_ofQuestions_perm (Dataset.nodup_build gs) fun q hq _ => hin q hq
    refine this.trans (List.Perm.of_eq ?_)
    congr 1
    refine List.filter_congr fun q _ => ?_
    unfold isScored QuestionKind.isScored
    cases q.kind <;> simp

theorem parse_partitions_nestedSurvey :
    parse nestedSurvey noChoices "nested" = .ok (nestedForm "nested") ∧
    (nestedForm "nested").catalog.datasets = ["survey", "jobs"] ∧
    (nestedForm "nested").catalog.names "jobs" .numeric = ["pay", "hours"] ∧
    (nestedForm "nested").catalog.names "survey" .geopoint = [] := by
  have hparse := parse_nestedSurvey "nested"
  obtain ⟨-, -, hdatasets, -, -, hnames, -⟩ := parse_partitions hparse
  refine ⟨hparse, ?_, ?_, ?_⟩
  · rw [hdatasets]
    decide +kernel
  · rw [hnames]
    decide +kernel
  · rw [hnames, if_neg (by decide)]

end SurveyChecks.Form
