import SurveyChecks.Proofs.Form.Analysis
import SurveyChecks.Proofs.Form.Choices

/-!
# How an analysis ends

Where every cell has a text, an analysis fails for one of four reasons, looked for in this order:
columns that the choices sheet lacks, a value code with too many digits, columns that the survey
sheet lacks, and opening and closing rows that are not balanced. Otherwise it gives a form.
-/

namespace SurveyChecks

/-- The error is about opening and closing rows that cannot be paired. -/
def FormError.IsMalformedRepeat : FormError → Prop
  | .unbalancedRepeats .. | .unclosedRepeat _ => True
  | _ => False

namespace Repeat

open Marker (orders count)
open Question (DistinctOrders inOrder)

/-- A sequence of openings and closings is balanced: there are as many of both, and no beginning has
more closings than openings. -/
def Balanced (kinds : List MarkerKind) : Prop :=
  kinds.count .opening = kinds.count .closing ∧
    ∀ pre, pre <+: kinds → pre.count .closing ≤ pre.count .opening

theorem count_map_kind (kind : MarkerKind) (ms : List Marker) :
    (ms.map (·.kind)).count kind = count kind ms := by
  unfold count orders
  rw [List.length_map, List.count, List.countP_map, List.countP_eq_length_filter]
  rfl

/-- Markers can be matched without a rest just when their kinds are balanced. -/
theorem exists_matched_nil_iff_balanced {ms : List Marker} :
    (∃ ps, Matched ms ps []) ↔ Balanced (ms.map (·.kind)) := by
  rw [exists_matched_nil_iff]
  unfold Balanced NeverBelow
  rw [count_map_kind, count_map_kind]
  refine and_congr_right fun _ => ⟨fun h pre hpre => ?_, fun h pre hpre => ?_⟩
  · obtain ⟨pre', hpre', rfl⟩ := List.prefix_map_iff.mp hpre
    rw [count_map_kind, count_map_kind]
    exact h pre' hpre'
  · have := h _ (hpre.map (·.kind))
    rwa [count_map_kind, count_map_kind] at this

end Repeat

namespace RepeatGroup

open Marker (count)
open Question (DistinctOrders inOrder)
open Repeat (markersOf Balanced)

variable {qs : List Question}

theorem resolve_of_balanced (h : DistinctOrders qs)
    (hb : Balanced ((markersOf (inOrder qs)).map (·.kind))) : ∃ gs, resolve qs = .ok gs := by
  obtain ⟨ps, hm⟩ := Repeat.exists_matched_nil_iff_balanced.mpr hb
  exact ⟨_, (resolve_eq_ok_iff h).mpr ⟨ps, hm, rfl⟩⟩

theorem resolve_of_not_balanced (h : DistinctOrders qs)
    (hb : ¬ Balanced ((markersOf (inOrder qs)).map (·.kind))) :
    ∃ e, e.IsMalformedRepeat ∧ resolve qs = .error e := by
  have hasc := Repeat.ascending_markersOf (Question.ascending_inOrder h)
  have hpair : ∃ e, e.IsMalformedRepeat ∧
      Repeat.pair (Repeat.markers .opening qs) (Repeat.markers .closing qs) = .error e := by
    rw [Repeat.markers_eq_orders, Repeat.markers_eq_orders]
    by_cases hcount : count .opening (markersOf (inOrder qs)) =
        count .closing (markersOf (inOrder qs))
    · obtain ⟨b, hb', -⟩ := Repeat.pair_eq_unclosed hasc hcount
        (mt Repeat.exists_matched_nil_iff_balanced.mp hb)
      exact ⟨.unclosedRepeat b, trivial, hb'⟩
    · exact ⟨.unbalancedRepeats _ _, trivial, if_pos hcount⟩
  obtain ⟨e, hmalformed, he⟩ := hpair
  refine ⟨e, hmalformed, ?_⟩
  unfold resolve
  rw [he]
  rfl

end RepeatGroup

namespace Form

open Repeat (Matched markersOf Balanced)
open Question (ofRows)

/-- The sequence of openings and closings among the rows of a survey sheet that are kept. -/
def markerKinds (survey : Sheet) : List MarkerKind :=
  (survey.rows.filterMap (Question.ofRow? survey.columns)).filterMap Repeat.markerKind?

variable {survey choices : Sheet} {name : String}

/-- Numbering and classifying questions does not change which of them are markers. -/
theorem filterMap_markerKind?_ofRows (columns : List String) (rows : List Row) :
    (ofRows columns rows).filterMap Repeat.markerKind? =
      (rows.filterMap (Question.ofRow? columns)).filterMap Repeat.markerKind? := by
  unfold ofRows Question.classified Question.numbered
  rw [List.filterMap_map, List.filterMap_map]
  conv_rhs => rw [← List.zipIdx_map_fst 1 (rows.filterMap _), List.filterMap_map]
  rfl

theorem map_kind_markersOf (survey : Sheet) :
    (markersOf (ofRows survey.columns survey.rows)).map (·.kind) = markerKinds survey := by
  have hkind : ∀ q : Question, (Repeat.marker? q).map (·.kind) = Repeat.markerKind? q := by
    intro q
    unfold Repeat.marker?
    rw [Option.map_map]
    exact Option.map_id'
  unfold markersOf markerKinds
  rw [List.map_filterMap, List.filterMap_congr fun q _ => hkind q, filterMap_markerKind?_ofRows]

/-! ## The steps of an analysis -/

section Steps

variable {e : FormError} {cs : List Choice} {qs : List Question} {gs : List RepeatGroup}

theorem parse_of_choices_error (h : Choice.load choices = .error e) :
    parse survey choices name = .error e := by
  unfold parse
  rw [h]
  rfl

theorem parse_of_questions_error (hc : Choice.load choices = .ok cs)
    (h : loadQuestions survey = .error e) : parse survey choices name = .error e := by
  unfold parse
  rw [hc, h]
  rfl

theorem parse_of_groups_error (hc : Choice.load choices = .ok cs)
    (hq : loadQuestions survey = .ok qs) (h : RepeatGroup.resolve qs = .error e) :
    parse survey choices name = .error e := by
  unfold parse
  rw [hc, hq]
  simp [h, bind, Except.bind]

theorem loadQuestions_of_error (h : Question.load survey = .error e) :
    loadQuestions survey = .error e := by
  unfold loadQuestions
  rw [h]
  rfl

theorem loadQuestions_of_loads (h : Question.Loads survey) :
    loadQuestions survey = .ok (ofRows survey.columns survey.rows) :=
  loadQuestions_eq_ok_iff.mpr ⟨h, rfl⟩

theorem resolve_ofRows (survey : Sheet) :
    (Balanced (markerKinds survey) →
      ∃ gs, RepeatGroup.resolve (ofRows survey.columns survey.rows) = .ok gs) ∧
    (¬ Balanced (markerKinds survey) →
      ∃ e, e.IsMalformedRepeat ∧
        RepeatGroup.resolve (ofRows survey.columns survey.rows) = .error e) := by
  have hasc := Question.ascending_ofRows survey.columns survey.rows
  have hkinds : (markersOf (Question.inOrder (ofRows survey.columns survey.rows))).map (·.kind) =
      markerKinds survey := by
    rw [hasc.inOrder_eq, map_kind_markersOf]
  rw [← hkinds]
  exact ⟨RepeatGroup.resolve_of_balanced hasc.distinctOrders,
    RepeatGroup.resolve_of_not_balanced hasc.distinctOrders⟩

theorem loadWarnings_of_error (h : Question.load survey = .error e) :
    Question.loadWarnings survey = [] := by
  unfold Question.loadWarnings
  rw [h]

/-- Loading questions warns just when no row is kept. -/
theorem loadWarnings_of_loads (h : Question.Loads survey) :
    Question.loadWarnings survey =
      if survey.rows.filterMap (Question.ofRow? survey.columns) = [] then
        [Question.emptyWarning survey]
      else [] := by
  unfold Question.loadWarnings
  rw [Question.load_of_loads h]
  cases survey.rows.filterMap (Question.ofRow? survey.columns) <;> rfl

theorem parseWarnings_of_choices (hc : Choice.load choices = .ok cs) :
    parseWarnings survey choices = Question.loadWarnings survey := by
  unfold parseWarnings
  rw [hc]

theorem parseWarnings_of_choices_error (h : Choice.load choices = .error e) :
    parseWarnings survey choices = [] := by
  unfold parseWarnings
  rw [h]

end Steps

/-! ## The ends of an analysis -/

section Ends

/-- Every question of an analysis finds the dataset of its group. -/
theorem parse_ne_unknownGroup (survey choices : Sheet) (name : String) (i : Int) :
    parse survey choices name ≠ .error (.unknownGroup i) := by
  intro hi
  cases hc : Choice.load choices with
  | error e =>
    obtain rfl := Except.error.inj ((parse_of_choices_error hc).symm.trans hi)
    simpa using Choice.error_of_load hc
  | ok cs =>
    cases hload : Question.load survey with
    | error e =>
      obtain rfl := Except.error.inj
        ((parse_of_questions_error hc (loadQuestions_of_error hload)).symm.trans hi)
      simpa using Question.error_of_load hload
    | ok qs =>
      have hq := loadQuestions_of_loads (Question.load_eq_ok_iff.mp hload).1
      by_cases hb : Balanced (markerKinds survey)
      · obtain ⟨gs, hg⟩ := (resolve_ofRows survey).1 hb
        have hok : parse survey choices name = .ok _ :=
          parse_eq_ok_iff.mpr ⟨_, _, gs, hc, hq, hg, rfl⟩
        rw [hok] at hi
        contradiction
      · obtain ⟨e, he, hg⟩ := (resolve_ofRows survey).2 hb
        obtain rfl := Except.error.inj ((parse_of_groups_error hc hq hg).symm.trans hi)
        exact he

variable (hlegible : Choice.Legible choices)
include hlegible

theorem parse_of_hasLongCode (h : choices.missing (Choice.requiredColumns choices.columns) = [])
    (hlong : Choice.HasLongCode choices) : parse survey choices name = .error .codeTooLong :=
  parse_of_choices_error (Choice.load_of_hasLongCode h hlegible hlong)

theorem parse_of_survey_columns_missing (hloads : Choice.Loads choices)
    (h : survey.missing ["type", "name"] ≠ []) :
    parse survey choices name =
      .error (.missingColumns survey.name (survey.missing ["type", "name"])) :=
  parse_of_questions_error (Choice.load_of_loads hloads hlegible)
    (loadQuestions_of_error (Question.load_of_missing h))

theorem parse_of_not_balanced (hloads : Choice.Loads choices) (h : Question.Loads survey)
    (hb : ¬ Balanced (markerKinds survey)) :
    ∃ e, e.IsMalformedRepeat ∧ parse survey choices name = .error e := by
  obtain ⟨e, he, hresolve⟩ := (resolve_ofRows survey).2 hb
  exact ⟨e, he, parse_of_groups_error (Choice.load_of_loads hloads hlegible)
    (loadQuestions_of_loads h) hresolve⟩

theorem parse_of_balanced (hloads : Choice.Loads choices) (h : Question.Loads survey)
    (hb : Balanced (markerKinds survey)) : ∃ f, parse survey choices name = .ok f := by
  obtain ⟨gs, hresolve⟩ := (resolve_ofRows survey).1 hb
  exact ⟨_, parse_eq_ok_iff.mpr ⟨_, _, gs, Choice.load_of_loads hloads hlegible,
    loadQuestions_of_loads h, hresolve, rfl⟩⟩

end Ends

/-- Both sheets can be read, and no row of the survey sheet is kept. -/
def IsEmpty (survey choices : Sheet) : Prop :=
  Choice.Loads choices ∧ survey.missing ["type", "name"] = [] ∧
    ∀ row ∈ survey.rows, Question.ofRow? survey.columns row = none

theorem parseWarnings_of_isEmpty (hsurvey : Question.Legible survey)
    (hchoices : Choice.Legible choices) (h : IsEmpty survey choices) :
    parseWarnings survey choices = [Question.emptyWarning survey] := by
  obtain ⟨hloads, hmiss, hnone⟩ := h
  rw [parseWarnings_of_choices (Choice.load_of_loads hloads hchoices),
    loadWarnings_of_loads ⟨hmiss, hsurvey⟩, if_pos (List.filterMap_eq_nil_iff.mpr hnone)]

theorem parseWarnings_of_not_isEmpty (h : ¬ IsEmpty survey choices) :
    parseWarnings survey choices = [] := by
  cases hc : Choice.load choices with
  | error e => exact parseWarnings_of_choices_error hc
  | ok cs =>
    rw [parseWarnings_of_choices hc]
    cases hload : Question.load survey with
    | error e => exact loadWarnings_of_error hload
    | ok qs =>
      have hloads := (Question.load_eq_ok_iff.mp hload).1
      rw [loadWarnings_of_loads hloads, if_neg]
      exact fun hnil => h ⟨(Choice.load_eq_ok_iff.mp hc).1.1, hloads.1,
        List.filterMap_eq_nil_iff.mp hnil⟩

/-- Where every cell has a text, an analysis ends in the first of these ways that applies: with the
columns that the choices sheet lacks, if any; with a value code that is too long, if a row with
content has one; with the columns that the survey sheet lacks, if any; with an error about the
repeat groups, if their opening and closing rows are not balanced; and otherwise with a form. It
never meets a group that does not exist, and it warns just when both sheets can be read and there is
no question. -/
theorem parse_outcome {survey choices : Sheet} (hsurvey : survey.isTextual)
    (hchoices : choices.isTextual) (name : String) :
    (choices.missing (Choice.requiredColumns choices.columns) ≠ [] →
      parse survey choices name = .error (.missingColumns choices.name
        (choices.missing (Choice.requiredColumns choices.columns)))) ∧
    (choices.missing (Choice.requiredColumns choices.columns) = [] → Choice.HasLongCode choices →
      parse survey choices name = .error .codeTooLong) ∧
    (Choice.Loads choices → survey.missing ["type", "name"] ≠ [] →
      parse survey choices name =
        .error (.missingColumns survey.name (survey.missing ["type", "name"]))) ∧
    (Choice.Loads choices → survey.missing ["type", "name"] = [] →
      ¬ Balanced (markerKinds survey) →
      ∃ e, e.IsMalformedRepeat ∧ parse survey choices name = .error e) ∧
    (Choice.Loads choices → survey.missing ["type", "name"] = [] →
      Balanced (markerKinds survey) → ∃ f, parse survey choices name = .ok f) ∧
    (∀ i, parse survey choices name ≠ .error (.unknownGroup i)) ∧
    (IsEmpty survey choices → parseWarnings survey choices = [Question.emptyWarning survey]) ∧
    (¬ IsEmpty survey choices → parseWarnings survey choices = []) := by
  have hrows := Question.legible_of_isTextual hsurvey
  have hoptions := Choice.legible_of_isTextual hchoices
  exact ⟨fun h => parse_of_choices_error (Choice.load_of_missing h), parse_of_hasLongCode hoptions,
    parse_of_survey_columns_missing hoptions,
    fun hloads hcolumns => parse_of_not_balanced hoptions hloads ⟨hcolumns, hrows⟩,
    fun hloads hcolumns => parse_of_balanced hoptions hloads ⟨hcolumns, hrows⟩,
    parse_ne_unknownGroup survey choices name, parseWarnings_of_isEmpty hrows hoptions,
    parseWarnings_of_not_isEmpty⟩

/-- The nested survey without its last row, which closes a group. -/
def unclosedSurvey : Sheet := { nestedSurvey with rows := nestedSurvey.rows.dropLast }

theorem parse_outcome_unclosedSurvey :
    unclosedSurvey.isTextual ∧ noChoices.isTextual ∧ ¬ Balanced (markerKinds unclosedSurvey) ∧
      ∃ e, e.IsMalformedRepeat ∧ parse unclosedSurvey noChoices "unclosed" = .error e := by
  have hsurvey : unclosedSurvey.isTextual := rfl
  have hchoices : noChoices.isTextual := rfl
  have hloads : Choice.Loads noChoices :=
    ⟨rfl, fun ⟨_, hrow, _⟩ => absurd hrow (by simp [noChoices])⟩
  have hkinds : markerKinds unclosedSurvey =
      [.opening, .closing, .opening, .opening, .closing] := by
    decide +kernel
  have hb : ¬ Balanced (markerKinds unclosedSurvey) := by
    rw [hkinds]
    exact fun h => absurd h.1 (by decide)
  obtain ⟨-, -, -, hmalformed, -⟩ := parse_outcome hsurvey hchoices "unclosed"
  exact ⟨hsurvey, hchoices, hb, hmalformed hloads rfl hb⟩

end Form

end SurveyChecks
