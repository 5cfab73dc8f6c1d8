import Mathlib.Data.List.Find
import SurveyChecks.Form.Basic
import SurveyChecks.Proofs.Catalog
import SurveyChecks.Proofs.Form.Questions

/-!
# What an analysis does

`Form.parse` as one equation: the rows that are kept, numbered from one and classified, the groups
of their markers, and each question placed in its group and dataset.
-/

namespace SurveyChecks

namespace Question

/-- The kind depends on the words of the type, on whether it is that of a note, and on the
calculation. -/
theorem classify_eq_of_isNote {q q' : Question} (ht : q.tokens = q'.tokens)
    (hn : q.isNote = q'.isNote) (hc : q.calculation = q'.calculation) :
    q.classify = q'.classify := by
  have hbase : q.base = q'.base := by rw [base, base, ht]
  have hrules : ∀ r ∈ kindRules, r.applies q = r.applies q' := by
    simp only [kindRules, overrideRules, specificRules, otherRules, baseRule, List.cons_append,
      List.nil_append, List.forall_mem_cons, isStructural, isPreloaded, hbase, ht, hn, hc,
      List.not_mem_nil, false_imp_iff, implies_true, and_self]
  unfold classify kindBy
  rw [List.find?_congr hrules]

/-- The kind depends on the type and the calculation only. -/
theorem classify_congr {q q' : Question} (ht : q.tokens = q'.tokens) (hr : q.rawType = q'.rawType)
    (hc : q.calculation = q'.calculation) : q.classify = q'.classify :=
  classify_eq_of_isNote ht (by rw [isNote, isNote, hr]) hc

/-- The questions of rows, numbered from one, with their kinds. -/
def ofRows (columns : List String) (rows : List Row) : List Question :=
  classified (numbered (rows.filterMap (ofRow? columns)))

theorem map_order_numbered (qs : List Question) :
    (numbered qs).map (·.order) = (List.range' 1 qs.length).map (fun k : Nat => (k : Int)) := by
  unfold numbered
  rw [List.map_map, ← List.zipIdx_map_snd 1 qs, List.map_map]
  rfl

theorem map_order_ofRows (columns : List String) (rows : List Row) :
    (ofRows columns rows).map (·.order) =
      (List.range' 1 (ofRows columns rows).length).map (fun k : Nat => (k : Int)) := by
  unfold ofRows classified
  rw [List.map_map, List.length_map]
  have := map_order_numbered (rows.filterMap (ofRow? columns))
  simpa [numbered, Function.comp_def] using this

theorem ascending_ofRows (columns : List String) (rows : List Row) :
    Ascending (ofRows columns rows) := by
  refine List.pairwise_map.mp ?_
  rw [map_order_ofRows]
  exact pairwise_lt_range'_cast 1 _

end Question

namespace Form

variable {survey choices : Sheet} {name : String} {f : Form} {qs : List Question}

theorem loadQuestions_eq_ok_iff :
    loadQuestions survey = .ok qs ↔
      Question.Loads survey ∧ qs = Question.ofRows survey.columns survey.rows := by
  unfold loadQuestions
  constructor
  · intro h
    cases hload : Question.load survey with
    | error e => simp [hload, Except.map] at h
    | ok qs' =>
      obtain ⟨hloads, rfl⟩ := Question.load_eq_ok_iff.mp hload
      rw [hload] at h
      exact ⟨hloads, (Except.ok.inj h).symm⟩
  · rintro ⟨hloads, rfl⟩
    rw [Question.load_of_loads hloads]
    rfl

/-- The form of questions with kinds and of their groups. -/
def analysed (name : String) (cs : List Choice) (qs : List Question) (gs : List RepeatGroup) :
    Form where
  name := name
  questions := qs.map (Dataset.place gs)
  choices := cs
  choiceLists := Choice.lists cs
  groups := gs
  datasets := Dataset.build gs
  catalog := Catalog.ofQuestions (qs.map (Dataset.place gs)) (Dataset.build gs)

/-- An analysis succeeds just when both sheets can be read and the groups can be found. -/
theorem parse_eq_ok_iff :
    parse survey choices name = .ok f ↔
      ∃ cs qs gs, Choice.load choices = .ok cs ∧ loadQuestions survey = .ok qs ∧
        RepeatGroup.resolve qs = .ok gs ∧ f = analysed name cs qs gs := by
  unfold parse
  cases hc : Choice.load choices with
  | error e => simp [bind, Except.bind]
  | ok cs =>
    cases hq : loadQuestions survey with
    | error e => simp [bind, Except.bind]
    | ok qs =>
      cases hg : RepeatGroup.resolve qs with
      | error e => simp [hg, bind, Except.bind]
      | ok gs =>
        simp [hg, Dataset.assign_assign, bind, Except.bind, pure, Except.pure, analysed, eq_comm]

/-- An analysis in terms of the rows: the pairs of the markers and the groups made of them. -/
theorem parse_eq_ok_iff_matched :
    parse survey choices name = .ok f ↔
      Question.Loads survey ∧
      ∃ cs ps, Choice.load choices = .ok cs ∧
        Repeat.Matched (Repeat.markersOf (Question.ofRows survey.columns survey.rows)) ps [] ∧
        f = analysed name cs (Question.ofRows survey.columns survey.rows)
          (RepeatGroup.numbered (Question.ofRows survey.columns survey.rows) 1 ps) := by
  have hasc := Question.ascending_ofRows survey.columns survey.rows
  rw [parse_eq_ok_iff]
  constructor
  · rintro ⟨cs, qs, gs, hc, hq, hg, rfl⟩
    obtain ⟨hm, rfl⟩ := loadQuestions_eq_ok_iff.mp hq
    obtain ⟨ps, hps, rfl⟩ := (RepeatGroup.resolve_eq_ok_iff hasc.distinctOrders).mp hg
    rw [hasc.inOrder_eq] at hps
    exact ⟨hm, cs, ps, hc, hps, rfl⟩
  · rintro ⟨hm, cs, ps, hc, hps, rfl⟩
    refine ⟨cs, _, _, hc, loadQuestions_eq_ok_iff.mpr ⟨hm, rfl⟩, ?_, rfl⟩
    rw [RepeatGroup.resolve_eq_ok_iff hasc.distinctOrders, hasc.inOrder_eq]
    exact ⟨ps, hps, rfl⟩

section Markers

variable {cs : List Choice} (hq : Question.Loads survey) (hc : Choice.load choices = .ok cs)
include hq hc

theorem parse_of_markers_nil
    (hmarkers : Repeat.markersOf (Question.ofRows survey.columns survey.rows) = []) :
    parse survey choices name =
      .ok (analysed name cs (Question.ofRows survey.columns survey.rows) []) := by
  refine parse_eq_ok_iff_matched.mpr ⟨hq, cs, [], hc, ?_, rfl⟩
  rw [hmarkers]
  exact .nil

theorem parse_of_markers_pair {i j : Nat}
    (hmarkers : Repeat.markersOf (Question.ofRows survey.columns survey.rows) =
      [⟨.opening, i⟩, ⟨.closing, j⟩]) :
    parse survey choices name =
      .ok (analysed name cs (Question.ofRows survey.columns survey.rows)
        (RepeatGroup.numbered (Question.ofRows survey.columns survey.rows) 1 [(i, j)])) := by
  refine parse_eq_ok_iff_matched.mpr ⟨hq, cs, [(i, j)], hc, ?_, rfl⟩
  rw [hmarkers]
  exact .opening i (.closing j .nil)

end Markers

/-! ## A form with nested groups -/

/-- A row of a survey with a type, a name and a label. -/
def surveyRow (type name label : String) : Row :=
  [("type", .text type), ("name", .text name), ("label", .text label)]

/-- Three groups, one inside another, of which two share their label and one is called after the
survey. -/
def nestedSurvey : Sheet :=
  ⟨"survey", ["type", "name", "label"],
    [surveyRow "begin repeat" "r1" "jobs", surveyRow "integer" "pay" "",
     surveyRow "end repeat" "" "", surveyRow "begin repeat" "r2" "survey",
     surveyRow "text" "who" "", surveyRow "geopoint" "at" "",
     surveyRow "begin repeat" "r3" "jobs", surveyRow "integer" "hours" "",
     surveyRow "end repeat" "" "", surveyRow "end repeat" "" ""]⟩

/-- A choices sheet without choices. -/
def noChoices : Sheet := ⟨"choices", ["list_name", "name", "label"], []⟩

/-- The analysis of the nested groups. -/
def nestedForm (name : String) : Form :=
  analysed name [] (Question.ofRows nestedSurvey.columns nestedSurvey.rows)
    (RepeatGroup.numbered (Question.ofRows nestedSurvey.columns nestedSurvey.rows) 1
      [(1, 3), (4, 10), (7, 9)])

theorem loads_nestedSurvey : Question.Loads nestedSurvey :=
  ⟨rfl, Question.legible_of_isTextual rfl⟩

theorem parse_nestedSurvey (name : String) :
    parse nestedSurvey noChoices name = .ok (nestedForm name) := by
  have hmarkers : Repeat.markersOf (Question.ofRows nestedSurvey.columns nestedSurvey.rows) =
      [⟨.opening, 1⟩, ⟨.closing, 3⟩, ⟨.opening, 4⟩, ⟨.opening, 7⟩, ⟨.closing, 9⟩,
        ⟨.closing, 10⟩] := by
    decide +kernel
  have hmatched : Repeat.Matched
      (Repeat.markersOf (Question.ofRows nestedSurvey.columns nestedSurvey.rows))
      [(1, 3), (4, 10), (7, 9)] [] := by
    rw [hmarkers]
    exact .opening 1 (.closing 3 (.opening 4 (.opening 7 (.closing 9 (.closing 10 .nil)))))
  exact parse_eq_ok_iff_matched.mpr ⟨loads_nestedSurvey, [], _, rfl, hmatched, rfl⟩

end Form

end SurveyChecks
