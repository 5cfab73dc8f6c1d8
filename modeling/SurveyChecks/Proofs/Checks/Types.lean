import SurveyChecks.Proofs.Checks.Labels
import SurveyChecks.Proofs.Form.Types

/-!
# Scripts do not depend on the spacing of types

Sheets whose types have the same words give the same script, and what opens or closes a group of
rows is known by the words of its type.
-/

namespace SurveyChecks.Script

open SurveyChecks.Text
open Question (SameButSpacing ReadFrom Spells joinedWord structureWords)

/-- A script does not show a type as it was written. -/
theorem sameSources_of_unspelled {f f' : Form} (h : f.unspelled = f'.unspelled) :
    SameSources f f' := by
  have hname : f.unspelled.name = f'.unspelled.name := by rw [h]
  have hdatasets : f.unspelled.datasets = f'.unspelled.datasets := by rw [h]
  have hcatalog : f.unspelled.catalog = f'.unspelled.catalog := by rw [h]
  have hlists : f.unspelled.choiceLists = f'.unspelled.choiceLists := by rw [h]
  have hquestions : f.unspelled.questions.map source = f'.unspelled.questions.map source := by
    rw [h]
  have hsource : source ∘ Question.unspelled = source := rfl
  refine ⟨hname, hdatasets, hcatalog, ?_, congrArg (OrderedMap.mapValues _) hlists⟩
  rw [← hsource, ← List.map_map, ← List.map_map]
  exact hquestions

/-- Only the words of types count. Two survey sheets that are the same but for the spacing of types
have the same questions but for the types as written; they are rejected with the same error, or
analysed as the same form but for the types as written, with the same script. What opens or closes a
group of rows is known by the first word of its type, or by the first two when it is spelled so. -/
theorem parse_ofSettings_of_sameButSpacing {survey survey' : Sheet}
    (h : survey.Alike SameButSpacing survey') (choices : Sheet) (name : String) :
    (Question.load survey).map (List.map Question.unspelled) =
        (Question.load survey').map (List.map Question.unspelled) ∧
    ((∃ e, Form.parse survey choices name = .error e ∧ Form.parse survey' choices name = .error e) ∨
      ∃ f f', Form.parse survey choices name = .ok f ∧ Form.parse survey' choices name = .ok f' ∧
        f.unspelled = f'.unspelled ∧ ∀ s, ofSettings f s = ofSettings f' s) ∧
    ∀ qs, Question.load survey = .ok qs → ∀ q ∈ qs,
      ∃ row ∈ survey.rows, ReadFrom survey.columns row q ∧
        ∀ p ∈ structureWords, q.base = joinedWord p ↔ Spells p (Text.words (row.text "type")) := by
  refine ⟨Question.load_of_sameButSpacing h, ?forms, ?ends⟩
  case forms =>
    rcases Form.parse_of_sameButSpacing h choices name with herror | ⟨f, f', hf, hf', hsame⟩
    · exact Or.inl herror
    · exact Or.inr ⟨f, f', hf, hf', hsame,
        ofSettings_eq_of_sameSources (sameSources_of_unspelled hsame)⟩
  case ends =>
    intro qs hload q hq
    obtain ⟨row, hrow, hread⟩ := Question.exists_row_of_mem_load hload hq
    exact ⟨row, hrow, hread, fun p hp => hread.base_eq_iff hp⟩

/-! ## A survey with spaced types -/

/-- A repeat group around a note and an audit, with a gap wherever a type has room for one. -/
def gappedSurvey (gap : String) : Sheet :=
  ⟨"survey", ["type", "name", "label"],
    [Form.surveyRow ("begin" ++ gap ++ "repeat" ++ gap) "r" "homes",
      Form.surveyRow (gap ++ "note") "intro" "Welcome",
      Form.surveyRow ("text" ++ gap ++ "audit") "log" "", Form.surveyRow "text" "who" "",
      Form.surveyRow (gap ++ "end" ++ gap ++ "repeat") "" ""]⟩

theorem agreeOutside_type (type type' name label : String) :
    Row.AgreeOutside (· == "type") (Form.surveyRow type name label)
      (Form.surveyRow type' name label) :=
  Row.agreeOutside_of_forall₂
    (.cons ⟨rfl, fun hshown => absurd rfl (Bool.eq_false_iff.mp hshown)⟩
      (.cons ⟨rfl, fun _ => rfl⟩ (.cons ⟨rfl, fun _ => rfl⟩ .nil)))

theorem sameButSpacing_surveyRow {type type' : String} (name label : String)
    (h : Text.words type = Text.words type') :
    SameButSpacing (Form.surveyRow type name label) (Form.surveyRow type' name label) :=
  ⟨agreeOutside_type type type' name label, congrArg some h⟩

/-- The blanks are a space in the one survey and a tab with a no-break space in the other. -/
theorem alike_gappedSurvey : (gappedSurvey " ").Alike SameButSpacing (gappedSurvey "\t\u00a0") := by
  refine ⟨rfl, rfl, ?_⟩
  exact .cons (sameButSpacing_surveyRow _ _ (by decide +kernel))
    (.cons (sameButSpacing_surveyRow _ _ (by decide +kernel))
      (.cons (sameButSpacing_surveyRow _ _ (by decide +kernel))
        (.cons (sameButSpacing_surveyRow _ _ rfl)
          (.cons (sameButSpacing_surveyRow _ _ (by decide +kernel)) .nil))))

/-- The analysis of the survey with single spaces. -/
def gappedForm : Form :=
  Form.analysed "homes" [] (Question.ofRows (gappedSurvey " ").columns (gappedSurvey " ").rows)
    (RepeatGroup.numbered (Question.ofRows (gappedSurvey " ").columns (gappedSurvey " ").rows) 1
      [(1, 5)])

theorem parse_gapped : Form.parse (gappedSurvey " ") Form.noChoices "homes" = .ok gappedForm := by
  have hload : Choice.load Form.noChoices = .ok [] := rfl
  exact Form.parse_of_markers_pair ⟨rfl, Question.legible_of_isTextual rfl⟩ hload
    (by decide +kernel)

/-- Both surveys have the same script. -/
theorem parse_ofSettings_of_gapped :
    (gappedSurvey " ").Alike SameButSpacing (gappedSurvey "\t\u00a0") ∧
      ∃ f, Form.parse (gappedSurvey "\t\u00a0") Form.noChoices "homes" = .ok f ∧
        f.unspelled = gappedForm.unspelled ∧ ∀ s, ofSettings f s = ofSettings gappedForm s := by
  refine ⟨alike_gappedSurvey, ?_⟩
  obtain ⟨-, hforms, -⟩ :=
    parse_ofSettings_of_sameButSpacing alike_gappedSurvey Form.noChoices "homes"
  rcases hforms with ⟨e, he, -⟩ | ⟨f, f', hf, hf', hsame, hscript⟩
  · rw [parse_gapped] at he
    contradiction
  · rw [parse_gapped] at hf
    obtain rfl := Except.ok.inj hf
    exact ⟨f', hf', hsame.symm, fun s => (hscript s).symm⟩

end SurveyChecks.Script
