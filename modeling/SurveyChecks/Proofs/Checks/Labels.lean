import SurveyChecks.Proofs.Checks.Independence
import SurveyChecks.Proofs.Form.Labels

/-!
# Scripts do not depend on labels

Forms that differ only in labels and in the numbers of their choices have the same script. So labels
reach a script in one way only, by the labels of rows that open a repeat group.
-/

namespace SurveyChecks.Script

open Form (SameButLabels)

/-! ## What a script takes from a form -/

/-- What the checks know of a question besides the catalog: its name and the list it refers to. -/
def source (q : Question) : String × Option String := (q.name, q.choiceList?)

/-- Two forms agree in everything that scripts are made of. -/
structure SameSources (f f' : Form) : Prop where
  name : f.name = f'.name
  datasets : f.datasets = f'.datasets
  catalog : f.catalog = f'.catalog
  questions : f.questions.map source = f'.questions.map source
  lists : f.choiceLists.mapValues (List.map (·.code)) =
    f'.choiceLists.mapValues (List.map (·.code))

section SameSources

variable {f f' : Form} (h : SameSources f f')
include h

theorem choiceList?_eq_of_sameSources (name : String) :
    (f.question? name).bind Question.choiceList? =
      (f'.question? name).bind Question.choiceList? := by
  have hsource : ∀ g : Form, (g.question? name).bind Question.choiceList? =
      ((g.questions.map source).find? (·.1 == name)).bind Prod.snd := by
    intro g
    rw [List.find?_map, Option.bind_map]
    rfl
  rw [hsource, hsource, h.questions]

theorem codesOf_eq_of_sameSources (name : String) : codesOf f name = codesOf f' name := by
  have hcodes : ∀ (g : Form) (list : String), (g.choiceList list).map (·.code) =
      ((g.choiceLists.mapValues (List.map (·.code))).get? list).getD [] := by
    intro g list
    rw [OrderedMap.get?_mapValues, Form.choiceList]
    cases g.choiceLists.get? list <;> rfl
  unfold codesOf
  rw [choiceList?_eq_of_sameSources h, hcodes, hcodes, h.lists]

theorem part_eq_of_sameSources (p : Parameters) (d : Dataset) : part f p d = part f' p d := by
  rw [part_eq, part_eq, h.catalog]
  congr 2
  exact List.flatMap_congr fun n _ => selectOneCheck_congr (codesOf_eq_of_sameSources h n)

/-- Forms that agree in these have the same script, whatever the settings are. -/
theorem ofSettings_eq_of_sameSources (s : Settings) : ofSettings f s = ofSettings f' s := by
  have hlines : ∀ p, lines f p = lines f' p := by
    intro p
    unfold lines preamble
    rw [h.name, h.datasets, List.flatMap_congr fun d _ => part_eq_of_sameSources h p d]
  have htext : text f = text f' := by
    funext p
    unfold text
    rw [hlines]
  unfold ofSettings hasSurvey
  rw [htext, h.datasets]

end SameSources

/-! ## Labels -/

theorem sameSources_of_sameButLabels {f f' : Form} (h : SameButLabels f f') : SameSources f f' where
  name := h.name
  datasets := h.datasets
  catalog := h.catalog
  lists := h.lists
  questions := by
    have hsource : source ∘ Question.unlabelled = source := rfl
    rw [← hsource, ← List.map_map, ← List.map_map, h.questions]

theorem ofSettings_eq_of_sameButLabels {f f' : Form} (h : SameButLabels f f') (s : Settings) :
    ofSettings f s = ofSettings f' s :=
  ofSettings_eq_of_sameSources (sameSources_of_sameButLabels h) s

variable {survey survey' choices choices' : Sheet}

/-- Labels do not influence the checks. Two survey sheets that differ only in labels, the same in
rows that open a repeat group, and two choices sheets that differ only in labels are rejected with
the same error, or are analysed as forms with the same groups, datasets and catalog, the same
questions but for labels, and the same lists of codes, which have the same script. The cells that
are looked at must have texts. -/
theorem parse_ofSettings_of_alike (hsurvey : survey.Alike Question.SameButLabel survey')
    (hchoices : choices.Alike Choice.SameButLabel choices')
    (hrows : Question.Legible survey) (hrows' : Question.Legible survey')
    (hoptions : Choice.Legible choices) (hoptions' : Choice.Legible choices') (name : String) :
    (∃ e, Form.parse survey choices name = .error e ∧
      Form.parse survey' choices' name = .error e) ∨
      ∃ f f', Form.parse survey choices name = .ok f ∧ Form.parse survey' choices' name = .ok f' ∧
        SameButLabels f f' ∧ ∀ s, ofSettings f s = ofSettings f' s := by
  rcases Form.parse_of_alike hsurvey hchoices hrows hrows' hoptions hoptions' name with
    herror | ⟨f, f', hf, hf', hsame⟩
  · exact Or.inl herror
  · exact Or.inr ⟨f, f', hf, hf', hsame, ofSettings_eq_of_sameButLabels hsame⟩

/-! ## A survey of homes -/

/-- A question about homes, with a label. -/
def homesSurvey (label : String) : Sheet :=
  ⟨"survey", ["type", "name", "label"],
    [Form.surveyRow "begin repeat" "r" "homes", Form.surveyRow "select_one yn" "owned" label,
      Form.surveyRow "end repeat" "" label]⟩

/-- Two options below a row that has a label at most. -/
def homesChoices (label : String) : Sheet :=
  ⟨"choices", ["list_name", "name", "label"],
    [choiceRow "" "" label, choiceRow "yn" "1" label, choiceRow "yn" "0" "No"]⟩

theorem agreeOutside_surveyRow (type name label label' : String) :
    Row.AgreeOutside Question.isLabelColumn (Form.surveyRow type name label)
      (Form.surveyRow type name label') := by
  have hlabel : Question.isLabelColumn "label" = true := by decide
  exact Row.agreeOutside_of_forall₂ (.cons ⟨rfl, fun _ => rfl⟩ (.cons ⟨rfl, fun _ => rfl⟩
    (.cons ⟨rfl, fun hshown => absurd hlabel (Bool.eq_false_iff.mp hshown)⟩ .nil)))

theorem alike_homesSurvey (label label' : String) :
    (homesSurvey label).Alike Question.SameButLabel (homesSurvey label') := by
  have hother : ∀ type name, (Text.words (Question.joinStructure (Text.strip type))).head? ≠
      some Question.beginRepeat → Question.SameButLabel (Form.surveyRow type name label)
        (Form.surveyRow type name label') := fun type name hne =>
    ⟨agreeOutside_surveyRow type name label label', fun hopen => absurd hopen hne⟩
  exact ⟨rfl, rfl, .cons ⟨fun _ _ => rfl, fun _ _ => rfl⟩ (.cons (hother _ _ (by decide +kernel))
    (.cons (hother _ _ (by decide +kernel)) .nil))⟩

theorem alike_homesChoices (label label' : String) :
    (homesChoices label).Alike Choice.SameButLabel (homesChoices label') := by
  have hrow : ∀ list name, Choice.SameButLabel (choiceRow list name label)
      (choiceRow list name label') := fun list name =>
    Row.agreeOutside_of_forall₂ (.cons ⟨rfl, fun _ => rfl⟩ (.cons ⟨rfl, fun _ => rfl⟩
      (.cons ⟨rfl, fun hshown => absurd rfl (Bool.eq_false_iff.mp hshown)⟩ .nil)))
  exact ⟨rfl, rfl, .cons (hrow _ _) (.cons (hrow _ _) (.cons (fun _ _ => rfl) .nil))⟩

theorem legible_homes {label : String} :
    Question.Legible (homesSurvey label) ∧ Choice.Legible (homesChoices label) :=
  ⟨Question.legible_of_isTextual rfl, Choice.legible_of_isTextual rfl⟩

/-- The analysis of the homes. -/
def homesForm (label : String) : Form :=
  Form.analysed "homes" ((Choice.readings (homesChoices label)).filterMap Choice.Reading.choice?)
    (Question.ofRows (homesSurvey label).columns (homesSurvey label).rows) [⟨1, 1, 3, "homes", "r"⟩]

theorem parse_homes {label : String} (hload : Choice.Loads (homesChoices label))
    (hmarkers : Repeat.markersOf (Question.ofRows (homesSurvey label).columns
      (homesSurvey label).rows) = [⟨.opening, 1⟩, ⟨.closing, 3⟩])
    (hgroups : RepeatGroup.numbered (Question.ofRows (homesSurvey label).columns
      (homesSurvey label).rows) 1 [(1, 3)] = [⟨1, 1, 3, "homes", "r"⟩]) :
    Form.parse (homesSurvey label) (homesChoices label) "homes" = .ok (homesForm label) := by
  rw [homesForm, ← hgroups]
  exact Form.parse_of_markers_pair ⟨rfl, legible_homes.1⟩
    (Choice.load_of_loads hload legible_homes.2) hmarkers

/-- With labels, the row above the options has content and the options are numbered from two. -/
theorem parse_ofSettings_of_homes :
    Form.parse (homesSurvey "") (homesChoices "") "homes" = .ok (homesForm "") ∧
      Form.parse (homesSurvey "Owned?") (homesChoices "Owned?") "homes" =
        .ok (homesForm "Owned?") ∧
      (homesForm "").choices.map (·.order) = [1, 2] ∧
      (homesForm "Owned?").choices.map (·.order) = [2, 3] ∧
      ∀ s, ofSettings (homesForm "") s = ofSettings (homesForm "Owned?") s := by
  have hparse : Form.parse (homesSurvey "") (homesChoices "") "homes" = .ok (homesForm "") :=
    parse_homes ⟨rfl, by unfold Choice.HasLongCode; decide +kernel⟩ (by decide +kernel)
      (by decide +kernel)
  have hparse' : Form.parse (homesSurvey "Owned?") (homesChoices "Owned?") "homes" =
      .ok (homesForm "Owned?") :=
    parse_homes ⟨rfl, by unfold Choice.HasLongCode; decide +kernel⟩ (by decide +kernel)
      (by decide +kernel)
  refine ⟨hparse, hparse', by decide +kernel, by decide +kernel, ?_⟩
  rcases parse_ofSettings_of_alike (alike_homesSurvey "" "Owned?") (alike_homesChoices "" "Owned?")
    legible_homes.1 legible_homes.1 legible_homes.2 legible_homes.2 "homes"
    with ⟨e, he, -⟩ | ⟨f, f', hf, hf', -, hscript⟩
  · rw [hparse] at he
    cases he
  · rw [hparse] at hf
    rw [hparse'] at hf'
    rwa [Except.ok.inj hf, Except.ok.inj hf']

/-- One option with a label. -/
def ownedChoices (label : Data) : Sheet :=
  ⟨"choices", ["list_name", "name", "label"],
    [[("list_name", .text "yn"), ("name", .text "1"), ("label", label)]]⟩

theorem alike_ownedChoices (label label' : Data) :
    (ownedChoices label).Alike Choice.SameButLabel (ownedChoices label') :=
  ⟨rfl, rfl, .cons (Row.agreeOutside_of_forall₂ (.cons ⟨rfl, fun _ => rfl⟩
    (.cons ⟨rfl, fun _ => rfl⟩
      (.cons ⟨rfl, fun hshown => absurd rfl (Bool.eq_false_iff.mp hshown)⟩ .nil)))) .nil⟩

/-- A label that is an integer with too many digits has no text, and the form cannot be analysed. -/
theorem parse_of_overlong_label :
    (ownedChoices (.text "Yes")).Alike Choice.SameButLabel
        (ownedChoices (.int Scalar.numeralBound)) ∧
      (∃ f, Form.parse (homesSurvey "") (ownedChoices (.text "Yes")) "homes" = .ok f) ∧
      Form.parse (homesSurvey "") (ownedChoices (.int Scalar.numeralBound)) "homes" =
        .error .numeralTooLong := by
  have hchoices : Choice.load (ownedChoices (.text "Yes")) = .ok [⟨"yn", 1, "Yes", 1⟩] := by
    decide +kernel
  have hoverlong : Choice.load (ownedChoices (.int Scalar.numeralBound)) =
      .error .numeralTooLong := by
    decide +kernel
  exact ⟨alike_ownedChoices _ _, ⟨_, Form.parse_of_markers_pair (i := 1) (j := 3)
    ⟨rfl, legible_homes.1⟩ hchoices (by decide +kernel)⟩, Form.parse_of_choices_error hoverlong⟩

end SurveyChecks.Script
