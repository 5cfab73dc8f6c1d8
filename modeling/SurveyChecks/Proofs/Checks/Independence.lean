import SurveyChecks.Proofs.Checks.Ranges

/-!
# Parts and the questions of other datasets

The part of a dataset follows the questions of the dataset, except that a select-one variable is
checked against the list of the first question of its name in the whole form. So the questions of
other datasets change a part by a repeated name, and in no other way.
-/

namespace SurveyChecks

/-! ## The questions of a dataset -/

/-- A question without its place in the form. -/
def Question.unplaced (q : Question) : Question := { q with order := 0, group := none }

namespace Form

/-- The questions of a dataset without their places, in order. -/
def own (f : Form) (dataset : String) : List Question :=
  (f.questions.filter (·.dataset == dataset)).map Question.unplaced

/-- The first question of a name belongs to a dataset. -/
def FoundIn (f : Form) (dataset name : String) : Prop :=
  (f.question? name).map (·.dataset) = some dataset

variable {f f' : Form} {survey survey' choices choices' : Sheet} {formName formName' : String}
  {dataset name : String}

theorem question?_of_foundIn (h : f.FoundIn dataset name) :
    (f.question? name).map Question.unplaced = (f.own dataset).find? (·.name == name) := by
  obtain ⟨q, hq, hdataset⟩ := Option.map_eq_some_iff.mp h
  obtain ⟨hname, before, after, hsplit, hbefore⟩ := List.find?_eq_some_iff_append.mp hq
  have hown : (f.questions.filter (·.dataset == dataset)).find? (·.name == name) = some q := by
    rw [List.find?_filter]
    refine List.find?_eq_some_iff_append.mpr ⟨by simp [hdataset, hname], before, after, hsplit, ?_⟩
    intro a ha
    have hother := hbefore a ha
    simp_all
  have hunplaced : ((·.name == name) ∘ Question.unplaced : Question → Bool) = (·.name == name) :=
    rfl
  rw [hq, own, List.find?_map, hunplaced, hown]

/-- The catalog of a form lists the variables of a dataset by its own questions. -/
theorem names_eq_own (hf : parse survey choices formName = .ok f) (dataset : String)
    (kind : QuestionKind) :
    f.catalog.names dataset kind =
      if kind.isScored then ((f.own dataset).filter (·.kind == some kind)).map (·.name) else [] := by
  have hkind : ((·.kind == some kind) ∘ Question.unplaced : Question → Bool) =
      (·.kind == some kind) := rfl
  have hname : ((·.name) ∘ Question.unplaced : Question → String) = (·.name) := rfl
  have hfiled : ∀ q : Question, Catalog.filed (dataset, kind) q =
      (q.kind == some kind && q.dataset == dataset) := fun q => Bool.and_comm ..
  rw [names_of_parse hf, own, List.filter_map, List.map_map, hkind, hname, List.filter_filter,
    List.filter_congr fun q _ => hfiled q]

end Form

namespace Script

variable {f f' : Form} {survey survey' choices choices' : Sheet} {formName formName' : String}
  {ids name : String} {p : Parameters} {d d' : Dataset}

/-! ## Around the checks of select-one variables -/

/-- What stands above the checks of the select-one variables in a part. -/
def above (names : QuestionKind → List String) (p : Parameters) (d : Dataset) : List String :=
  opening d ++ (if d.name = surveyDataset then surveySetup p else []) ++
    listSection "Text responses" "string_vars" (names .string) []
      [listing (identifiers d p) "`var'" "!missing(`var')"] ++
    sectionOf "Select-one values outside the choice list" (names .selectOne) fun _ => []

/-- What stands below the checks of the select-one variables in a part. -/
def below (names : QuestionKind → List String) (p : Parameters) (d : Dataset) : List String :=
  listSection "Select-multiple tabulations" "multiple_vars" (names .selectMultiple) []
      ["tab `var', missing"] ++
    listSection "Dates in the future" "date_vars" (names .date) []
      [listing (identifiers d p) "`var'" "`var' > today() & !missing(`var')"] ++
    listSection "Timestamps in the future" "datetime_vars" (names .datetime)
      ["local now = clock(\"`c(current_date)' `c(current_time)'\", \"DMYhms\")"]
      [listing (identifiers d p) "`var'" "`var' > `now' & !missing(`var')"] ++
    listSection "Numeric dispersion (3 standard deviations)" "numeric_vars" (names .numeric) []
      (numericCheck d p (identifiers d p)) ++
    (if d.name = surveyDataset then comments (identifiers d p) p else [])

theorem selectOneSection_eq (f : Form) (ids : String) (names : List String) :
    selectOneSection f ids names =
      sectionOf "Select-one values outside the choice list" names (fun _ => []) ++
        names.flatMap (selectOneCheck f ids) := by
  cases names <;> rfl

/-- A part reads the form by the names of the variables, except in the checks of select-one
variables. -/
theorem part_eq (f : Form) (p : Parameters) (d : Dataset) :
    part f p d = above (f.catalog.names d.name) p d ++
      (f.catalog.names d.name .selectOne).flatMap (selectOneCheck f (identifiers d p)) ++
      below (f.catalog.names d.name) p d := by
  rw [part, kindSections_eq, selectOneSection_eq]
  simp only [above, below, List.append_assoc]

/-! ## The checks themselves -/

/-- The check of a variable reads the form by the codes of the variable. -/
theorem selectOneCheck_congr (h : codesOf f name = codesOf f' name) :
    selectOneCheck f ids name = selectOneCheck f' ids name := by
  unfold selectOneCheck
  rw [codesFor_eq, codesFor_eq, h]

theorem length_selectOneCheck (f : Form) (ids name : String) :
    (selectOneCheck f ids name).length = 4 := by
  rw [selectOneCheck_of_codes (codesFor_eq f name)]
  rfl

theorem flatMap_selectOneCheck_eq_iff {names : List String} :
    names.flatMap (selectOneCheck f ids) = names.flatMap (selectOneCheck f' ids) ↔
      ∀ n ∈ names, selectOneCheck f ids n = selectOneCheck f' ids n := by
  refine ⟨fun h => ?_, fun h => List.flatMap_congr h⟩
  induction names with
  | nil => exact List.forall_mem_nil _
  | cons n names ih =>
    rw [List.flatMap_cons, List.flatMap_cons] at h
    have hlength : (selectOneCheck f ids n).length = (selectOneCheck f' ids n).length := by
      rw [length_selectOneCheck, length_selectOneCheck]
    obtain ⟨hcheck, hrest⟩ := List.append_inj h hlength
    exact List.forall_mem_cons.mpr ⟨hcheck, ih hrest⟩

/-- The codes of a variable whose first question belongs to a dataset follow the questions of the
dataset. -/
theorem codesOf_eq_own {dataset : String} (h : f.FoundIn dataset name) :
    codesOf f name = ((f.choiceLists.get?
      ((((f.own dataset).find? (·.name == name)).bind Question.choiceList?).getD "")).getD []).map
        (·.code) := by
  have hlist : (Question.choiceList? ∘ Question.unplaced) = Question.choiceList? := rfl
  rw [← Form.question?_of_foundIn h, Option.bind_map, hlist]
  rfl

/-- The codes of a variable are those that the choices sheet has for the list of the first question
of its name. -/
theorem codesOf_of_question? (hf : Form.parse survey choices formName = .ok f) {q : Question}
    (hq : f.question? name = some q) :
    codesOf f name = Choice.codesIn choices (q.choiceList?.getD "") := by
  rw [codesOf, hq, Option.bind_some, ← Choice.codes_choiceList hf]

/-! ## Independence -/

/-- Two analysed forms have the same choice lists, and a dataset of the same name with the same
questions, up to their places. -/
structure SameOwn (f f' : Form) (d d' : Dataset) : Prop where
  lists : f.choiceLists = f'.choiceLists
  mem : d ∈ f.datasets
  mem' : d' ∈ f'.datasets
  name : d.name = d'.name
  own : f.own d.name = f'.own d.name

section Own

variable (hf : Form.parse survey choices formName = .ok f)
  (hf' : Form.parse survey' choices' formName' = .ok f') (h : SameOwn f f' d d')
include hf hf' h

theorem names_eq_of_sameOwn : f'.catalog.names d'.name = f.catalog.names d.name := by
  funext kind
  rw [Form.names_eq_own hf, Form.names_eq_own hf', ← h.name, h.own]

theorem frame_eq_of_sameOwn (names : QuestionKind → List String) (p : Parameters) :
    above names p d' = above names p d ∧ below names p d' = below names p d ∧
      identifiers d' p = identifiers d p := by
  have hreference : d'.reference = d.reference := by
    rw [(datasets_of_parse hf).2.2 d h.mem, (datasets_of_parse hf').2.2 d' h.mem', h.name]
  have hids : identifiers d' p = identifiers d p := by
    unfold identifiers
    rw [h.name]
  refine ⟨?_, ?_, hids⟩
  · unfold above opening
    rw [hids, hreference, h.name]
  · unfold below numericCheck histogram
    rw [hids, hreference, h.name]

omit hf hf' in
theorem selectOneCheck_eq_of_foundIn (hfound : f.FoundIn d.name name)
    (hfound' : f'.FoundIn d.name name) :
    selectOneCheck f ids name = selectOneCheck f' ids name := by
  refine selectOneCheck_congr ?_
  rw [codesOf_eq_own hfound, codesOf_eq_own hfound', h.lists, h.own]

/-- Parts of the same questions differ at most in the checks of select-one variables. -/
theorem exists_parts_of_sameOwn (p : Parameters) :
    ∃ before after,
      part f p d = before ++ (f.catalog.names d.name .selectOne).flatMap
        (selectOneCheck f (identifiers d p)) ++ after ∧
      part f' p d' = before ++ (f.catalog.names d.name .selectOne).flatMap
        (selectOneCheck f' (identifiers d p)) ++ after := by
  have hpart' := part_eq f' p d'
  obtain ⟨habove, hbelow, hids⟩ := frame_eq_of_sameOwn hf hf' h (f.catalog.names d.name) p
  rw [names_eq_of_sameOwn hf hf' h, habove, hbelow, hids] at hpart'
  exact ⟨_, _, part_eq f p d, hpart'⟩

theorem part_eq_iff_of_sameOwn (p : Parameters) :
    part f p d = part f' p d' ↔ ∀ n ∈ f.catalog.names d.name .selectOne,
      selectOneCheck f (identifiers d p) n = selectOneCheck f' (identifiers d p) n := by
  obtain ⟨before, after, hpart, hpart'⟩ := exists_parts_of_sameOwn hf hf' h p
  rw [hpart, hpart', List.append_left_inj, List.append_right_inj, flatMap_selectOneCheck_eq_iff]

/-- Between forms without duplicate names, nothing but the own questions of a dataset changes its
part. -/
theorem part_eq_of_duplicateNames_eq_nil (hdup : (Report.ofForm f).duplicateNames = [])
    (hdup' : (Report.ofForm f').duplicateNames = []) (p : Parameters) :
    part f p d = part f' p d' := by
  -- without duplicates the first question of a name is the only one
  have hfound : ∀ {g : Form} {sheet options : Sheet} {title : String} {e : Dataset},
      Form.parse sheet options title = .ok g → (Report.ofForm g).duplicateNames = [] →
      ∀ n ∈ g.catalog.names e.name .selectOne, g.FoundIn e.name n := by
    intro g sheet options title e hg hg' n hn
    obtain ⟨q, hq, hdataset, hkind, rfl⟩ := exists_question_of_mem_names hg hn
    rw [Form.FoundIn, Report.question?_of_mem hg' hq (Form.selectOne_of_parse hg hq hkind).1,
      Option.map_some, hdataset]
  refine (part_eq_iff_of_sameOwn hf hf' h p).mpr fun n hn => ?_
  have hn' : n ∈ f'.catalog.names d'.name .selectOne := by
    rwa [names_eq_of_sameOwn hf hf' h]
  refine selectOneCheck_eq_of_foundIn h (hfound hf hdup n hn) ?_
  rw [h.name]
  exact hfound hf' hdup' n hn'

/-- In two analysed forms with the same choice lists, the parts of a dataset with the same questions
differ at most in the checks of select-one variables; they are the same just when each of these
checks is, and the check of a variable is the same when in both forms the first question of its name
belongs to the dataset. -/
theorem part_depends_on_own (p : Parameters) :
    ∃ names before after, names = f.catalog.names d.name .selectOne ∧
      part f p d = before ++ names.flatMap (selectOneCheck f (identifiers d p)) ++ after ∧
      part f' p d' = before ++ names.flatMap (selectOneCheck f' (identifiers d p)) ++ after ∧
      (part f p d = part f' p d' ↔ ∀ n ∈ names,
        selectOneCheck f (identifiers d p) n = selectOneCheck f' (identifiers d p) n) ∧
      ∀ n ∈ names, f.FoundIn d.name n → f'.FoundIn d.name n →
        selectOneCheck f (identifiers d p) n = selectOneCheck f' (identifiers d p) n := by
  obtain ⟨before, after, hpart, hpart'⟩ := exists_parts_of_sameOwn hf hf' h p
  exact ⟨_, before, after, rfl, hpart, hpart', part_eq_iff_of_sameOwn hf hf' h p,
    fun n _ hn hn' => selectOneCheck_eq_of_foundIn h hn hn'⟩

end Own

/-! ## A status asked for on visits -/

/-- A row of the survey dataset, and a repeat group that asks for a status. -/
def visitsSurvey (row : Row) : Sheet :=
  ⟨"survey", ["type", "name", "label"],
    [row, Form.surveyRow "begin repeat" "visits" "", Form.surveyRow "select_one yn" "status" "",
      Form.surveyRow "end repeat" "" ""]⟩

/-- A list of two codes and a list of three. -/
def visitsChoices : Sheet :=
  ⟨"choices", ["list_name", "name", "label"],
    [choiceRow "yn" "1" "Yes", choiceRow "yn" "0" "No", choiceRow "grade" "5" "Low",
      choiceRow "grade" "6" "Mid", choiceRow "grade" "7" "High"]⟩

/-- The analysis of the visits. -/
def visitsForm (row : Row) : Form :=
  Form.analysed "visits" ((Choice.readings visitsChoices).filterMap Choice.Reading.choice?)
    (Question.ofRows (visitsSurvey row).columns (visitsSurvey row).rows) [⟨1, 2, 4, "visits", "visits"⟩]

/-- The dataset of the visits. -/
def visits : Dataset := ⟨"visits", "visits", some 1⟩

theorem parse_visits {row : Row} (htexts : (visitsSurvey row).isTextual) (hmarkers : Repeat.markersOf
      (Question.ofRows (visitsSurvey row).columns (visitsSurvey row).rows) =
        [⟨.opening, 2⟩, ⟨.closing, 4⟩])
    (hgroups : RepeatGroup.numbered
      (Question.ofRows (visitsSurvey row).columns (visitsSurvey row).rows) 1 [(2, 4)] =
        [⟨1, 2, 4, "visits", "visits"⟩]) :
    Form.parse (visitsSurvey row) visitsChoices "visits" = .ok (visitsForm row) := by
  have hload : Choice.Loads visitsChoices := ⟨rfl, by unfold Choice.HasLongCode; decide +kernel⟩
  rw [visitsForm, ← hgroups]
  exact Form.parse_of_markers_pair ⟨rfl, Question.legible_of_isTextual htexts⟩
    (Choice.load_of_loads hload (Choice.legible_of_isTextual rfl)) hmarkers

theorem visits_mem_datasets (row : Row) : visits ∈ (visitsForm row).datasets := by
  have hdatasets : (visitsForm row).datasets = [Dataset.survey, visits] := by
    show Dataset.build _ = _
    decide
  rw [hdatasets]
  exact List.mem_cons_of_mem _ (List.mem_singleton_self _)

theorem choiceLists_visits (row : Row) : (visitsForm row).choiceLists =
    Choice.lists ((Choice.readings visitsChoices).filterMap Choice.Reading.choice?) := by
  rw [visitsForm, Form.analysed]

theorem sameOwn_visits {row row' : Row}
    (h : (visitsForm row).own "visits" = (visitsForm row').own "visits") :
    SameOwn (visitsForm row) (visitsForm row') visits visits where
  lists := (choiceLists_visits row).trans (choiceLists_visits row').symm
  mem := visits_mem_datasets row
  mem' := visits_mem_datasets row'
  name := rfl
  own := h

theorem parse_visits_text : Form.parse (visitsSurvey (Form.surveyRow "text" "who" ""))
    visitsChoices "visits" = .ok (visitsForm (Form.surveyRow "text" "who" "")) :=
  parse_visits rfl (by decide +kernel) (by decide +kernel)

theorem names_visits {row : Row}
    (hf : Form.parse (visitsSurvey row) visitsChoices "visits" = .ok (visitsForm row))
    (hfiled : ((visitsForm row).questions.filter (Catalog.filed ("visits", .selectOne))).map
      (·.name) = ["status"]) :
    (visitsForm row).catalog.names visits.name .selectOne = ["status"] := by
  rw [Form.names_of_parse hf, if_pos (by decide)]
  exact hfiled

theorem names_visits_text : (visitsForm (Form.surveyRow "text" "who" "")).catalog.names
    visits.name .selectOne = ["status"] :=
  names_visits parse_visits_text (by decide +kernel)

theorem rangeLine_mem_visits {row : Row} {codes : List Int}
    (hnames : (visitsForm row).catalog.names visits.name .selectOne = ["status"])
    (hne : codes ≠ []) (hcodes : codesOf (visitsForm row) "status" = codes) (p : Parameters) :
    rangeLine "parent_key key" "status" codes ∈ part (visitsForm row) p visits := by
  have hstatus : "status" ∈ (visitsForm row).catalog.names visits.name .selectOne := by
    rw [hnames]
    exact List.mem_singleton_self _
  refine (selectOneCheck_within_part (p := p) hstatus).mem ?_
  have hids : identifiers visits p = "parent_key key" := rfl
  rw [selectOneCheck_of_codes (codesFor_eq _ _), hcodes, if_neg hne, hids]
  simp

/-- A question of the survey dataset with another name leaves the part of the visits as it is. -/
theorem part_depends_on_own_visits :
    SameOwn (visitsForm (Form.surveyRow "text" "who" ""))
        (visitsForm (Form.surveyRow "select_one grade" "score" "")) visits visits ∧
      part (visitsForm (Form.surveyRow "text" "who" "")) Settings.visits.asParameters visits =
        part (visitsForm (Form.surveyRow "select_one grade" "score" ""))
          Settings.visits.asParameters visits := by
  have hsame : SameOwn (visitsForm (Form.surveyRow "text" "who" ""))
      (visitsForm (Form.surveyRow "select_one grade" "score" "")) visits visits :=
    sameOwn_visits (by decide +kernel)
  have hfound : (visitsForm (Form.surveyRow "text" "who" "")).FoundIn "visits" "status" ∧
      (visitsForm (Form.surveyRow "select_one grade" "score" "")).FoundIn "visits" "status" := by
    unfold Form.FoundIn
    decide +kernel
  obtain ⟨names, -, -, hnames, -, -, hiff, hchecks⟩ :=
    part_depends_on_own parse_visits_text (parse_visits rfl (by decide +kernel) (by decide +kernel))
      hsame Settings.visits.asParameters
  have hstatus : names = ["status"] := hnames.trans names_visits_text
  refine ⟨hsame, hiff.mpr ?_⟩
  rw [hstatus] at hchecks ⊢
  exact List.forall_mem_singleton.mpr (hchecks _ (List.mem_singleton_self _) hfound.1 hfound.2)

/-- A question of the survey dataset with the name of a question of the visits changes the part of
the visits: its status is checked against the grades. -/
theorem part_of_repeated_name :
    Form.parse (visitsSurvey (Form.surveyRow "text" "who" "")) visitsChoices "visits" =
        .ok (visitsForm (Form.surveyRow "text" "who" "")) ∧
      Form.parse (visitsSurvey (Form.surveyRow "select_one grade" "status" "")) visitsChoices
        "visits" = .ok (visitsForm (Form.surveyRow "select_one grade" "status" "")) ∧
      SameOwn (visitsForm (Form.surveyRow "text" "who" ""))
        (visitsForm (Form.surveyRow "select_one grade" "status" "")) visits visits ∧
      ∀ p, rangeLine "parent_key key" "status" [1, 0] ∈
          part (visitsForm (Form.surveyRow "text" "who" "")) p visits ∧
        rangeLine "parent_key key" "status" [5, 6, 7] ∈
          part (visitsForm (Form.surveyRow "select_one grade" "status" "")) p visits ∧
        part (visitsForm (Form.surveyRow "text" "who" "")) p visits ≠
          part (visitsForm (Form.surveyRow "select_one grade" "status" "")) p visits := by
  have hparse : Form.parse (visitsSurvey (Form.surveyRow "select_one grade" "status" ""))
      visitsChoices "visits" = .ok (visitsForm (Form.surveyRow "select_one grade" "status" "")) :=
    parse_visits rfl (by decide +kernel) (by decide +kernel)
  have hsame : SameOwn (visitsForm (Form.surveyRow "text" "who" ""))
      (visitsForm (Form.surveyRow "select_one grade" "status" "")) visits visits :=
    sameOwn_visits (by decide +kernel)
  have hcodes : codesOf (visitsForm (Form.surveyRow "text" "who" "")) "status" = [1, 0] := by
    rw [codesOf_of_question? parse_visits_text rfl]
    decide +kernel
  have hcodes' :
      codesOf (visitsForm (Form.surveyRow "select_one grade" "status" "")) "status" = [5, 6, 7] := by
    rw [codesOf_of_question? hparse rfl]
    decide +kernel
  refine ⟨parse_visits_text, hparse, hsame, fun p => ⟨?_, ?_, fun heq => ?_⟩⟩
  · exact rangeLine_mem_visits names_visits_text (by decide) hcodes p
  · exact rangeLine_mem_visits (names_visits hparse (by decide +kernel)) (by decide) hcodes' p
  · have hchecks := (part_eq_iff_of_sameOwn parse_visits_text hparse hsame p).mp heq "status"
    rw [names_visits_text, selectOneCheck_of_codes (codesFor_eq _ _),
      selectOneCheck_of_codes (codesFor_eq _ _), hcodes, hcodes'] at hchecks
    revert hchecks
    have hids : identifiers visits p = "parent_key key" := rfl
    rw [hids]
    decide +kernel

end Script

end SurveyChecks
