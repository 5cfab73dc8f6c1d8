import SurveyChecks.Proofs.Checks.Marks

/-!
# Scripts mirror catalogs

The lines of a script that start with a mark follow the catalog of the form: one line loads each
dataset, one line keeps the variables of each kind in a list, and the select-one variables are
checked one by one. What only the survey dataset has stands once in the script.
-/

namespace SurveyChecks.Script

open SurveyChecks.Text

/-! ## Parts -/

/-- The kinds whose variables are kept in lists, with the names of the lists. -/
def listed : List (QuestionKind × String) :=
  [(.string, "string_vars"), (.selectMultiple, "multiple_vars"), (.date, "date_vars"),
    (.datetime, "datetime_vars"), (.numeric, "numeric_vars")]

/-- The words that open the lines of the sections of all kinds. -/
def kindWords : List String :=
  ["* Text", "* Select", "* Dates", "* Time", "* Numeric", "local", "foreach", "capture",
    "if !_rc"] ++ inner

theorem opens_nil (words : List String) : Opens words [] := List.forall_mem_nil _

theorem opens_now : Opens ["local now"]
    ["local now = clock(\"`c(current_date)' `c(current_time)'\", \"DMYhms\")"] :=
  List.forall_mem_singleton.mpr (Or.inr ⟨_, List.mem_cons_self .., by decide⟩)

theorem opens_kindSections (f : Form) (d : Dataset) (p : Parameters) :
    Opens kindWords (kindSections f d p) := by
  rw [kindSections_eq]
  exact ((((((opens_listSection (opens_nil _)).shorten (by decide)).append
    ((opens_selectOneSection f _ _).shorten (by decide))).append
    ((opens_listSection (opens_nil _)).shorten (by decide))).append
    ((opens_listSection (opens_nil _)).shorten (by decide))).append
    ((opens_listSection opens_now).shorten (by decide))).append
    ((opens_listSection (opens_nil _)).shorten (by decide))

section Part

variable {f : Form} {p : Parameters} {d : Dataset}

theorem marked_part (mark : String) (f : Form) (p : Parameters) (d : Dataset) :
    marked mark (part f p d) =
      marked mark (opening d) ++
        (if d.name = surveyDataset then marked mark (surveySetup p) else []) ++
        marked mark (kindSections f d p) ++
        (if d.name = surveyDataset then marked mark (comments (identifiers d p) p) else []) := by
  rw [part, marked_append, marked_append, marked_append]
  split <;> rfl

/-- The line that loads a dataset, by its name without double quotes. -/
def useLine (d : Dataset) : String := "use \"" ++ without (· == '"') d.reference ++ "\", clear"

theorem marked_use_part (f : Form) (p : Parameters) (d : Dataset) :
    marked "use \"" (part f p d) = [useLine d] := by
  have hopening : opening d = ["", rule, "* Dataset: " ++ d.name, rule] ++ [useLine d] := by
    have huse : "use " ++ inQuotes d.reference ++ ", clear" = useLine d := by
      rw [← String.toList_inj]
      simp [useLine, inQuotes]
    rw [opening, huse]
    rfl
  have hbefore : Opens ["**", "* Dataset: "] ["", rule, "* Dataset: " ++ d.name, rule] := by
    have hrule : Starts "**" rule := by decide
    simp only [Opens, List.forall_mem_cons, List.exists_mem_cons_iff, hrule]
    simp [Starts]
  have huse : Starts "use \"" (useLine d) := by simp [Starts, useLine]
  have hsetup : marked "use \"" (surveySetup p) = [] :=
    marked_eq_nil (by decide) (opens_surveySetup p)
  have hsections : marked "use \"" (kindSections f d p) = [] :=
    marked_eq_nil (by decide) (opens_kindSections f d p)
  have hcomments : marked "use \"" (comments (identifiers d p) p) = [] :=
    marked_eq_nil (by decide) (opens_comments (identifiers d p) p)
  rw [marked_part, hopening, marked_append, marked_eq_nil (by decide) hbefore,
    marked_cons_of_starts huse, hsetup, hsections, hcomments]
  simp

/-- A mark apart from the words of the opening, of the setup and of the comments picks lines from
the sections of the kinds only. -/
theorem marked_part_of_sections {mark : String} (hopening : Apart mark openingWords)
    (hsetup : Apart mark setupWords) (hcomments : Apart mark commentWords) :
    marked mark (part f p d) = marked mark (kindSections f d p) := by
  rw [marked_part, marked_eq_nil hopening (opens_opening d),
    marked_eq_nil hsetup (opens_surveySetup p), marked_eq_nil hcomments (opens_comments _ p)]
  simp

/-- A mark apart from the words of the opening, of the sections and of the comments picks lines from
the setup of the survey dataset only. -/
theorem marked_part_of_setup {mark : String} (hopening : Apart mark openingWords)
    (hsections : Apart mark kindWords) (hcomments : Apart mark commentWords) :
    marked mark (part f p d) =
      if d.name = surveyDataset then marked mark (surveySetup p) else [] := by
  rw [marked_part, marked_eq_nil hopening (opens_opening d),
    marked_eq_nil hsections (opens_kindSections f d p),
    marked_eq_nil hcomments (opens_comments _ p)]
  simp

/-- The line of each list is there just when the bucket is not empty. -/
theorem marked_list_part (f : Form) (p : Parameters) (d : Dataset) :
    ∀ kl ∈ listed, marked ("local " ++ kl.2 ++ " \"") (part f p d) =
      if (f.catalog.names d.name kl.1).isEmpty then []
      else [listLine kl.2 (f.catalog.names d.name kl.1)] := by
  have hparts : ∀ kl ∈ listed, marked ("local " ++ kl.2 ++ " \"") (part f p d) =
      marked ("local " ++ kl.2 ++ " \"") (kindSections f d p) := by
    intro kl hkl
    have hapart : ∀ kl ∈ listed, Apart ("local " ++ kl.2 ++ " \"") openingWords ∧
        Apart ("local " ++ kl.2 ++ " \"") setupWords ∧
        Apart ("local " ++ kl.2 ++ " \"") commentWords := by decide
    obtain ⟨hopening, hsetup, hcomments⟩ := hapart kl hkl
    exact marked_part_of_sections hopening hsetup hcomments
  intro kl hkl
  rw [hparts kl hkl, kindSections_eq]
  revert kl
  simp only [listed, List.forall_mem_cons]
  refine ⟨?string, ?selectMultiple, ?date, ?datetime, ?numeric, List.forall_mem_nil _⟩
  -- the section of the list itself first, since no mark is apart from itself
  all_goals
    simp (disch := decide) only [marked_append, marked_listSection]
    simp (disch := decide) only [marked_listSection_eq_nil, marked_selectOneSection_eq_nil,
      List.append_nil, List.nil_append]

/-- The heading of the select-one section is there just when the bucket is not empty. -/
theorem marked_selectOne_part (f : Form) (p : Parameters) (d : Dataset) :
    marked selectOneHeading (part f p d) =
      if (f.catalog.names d.name .selectOne).isEmpty then [] else [selectOneHeading] := by
  have hsection : ∀ {heading list names before body}, Opens ["local now"] before →
      Apart selectOneHeading (["* " ++ heading] ++ loopWords list) →
      marked selectOneHeading (listSection heading list names before body) = [] :=
    fun hbefore hapart => marked_eq_nil hapart (opens_listSection hbefore)
  rw [marked_part_of_sections (by decide) (by decide) (by decide), kindSections_eq]
  simp (disch := decide) only [marked_append, hsection, marked_selectOneSection,
    List.append_nil, List.nil_append]

/-- A piece that another piece may follow: it is empty or starts with an empty line. -/
def StartsBlank (ls : List String) : Prop := ls = [] ∨ ls.head? = some ""

theorem StartsBlank.append {ls ls' : List String} (h : StartsBlank ls) (h' : StartsBlank ls') :
    StartsBlank (ls ++ ls') := by
  rcases h with rfl | h
  · exact h'
  · cases ls with
    | nil => exact h'
    | cons l ls => exact Or.inr h

theorem startsBlank_sectionOf (heading : String) (names : List String)
    (body : List String → List String) : StartsBlank (sectionOf heading names body) := by
  unfold sectionOf
  split
  · exact Or.inl rfl
  · exact Or.inr rfl

theorem startsBlank_comments (ids : String) (p : Parameters) :
    StartsBlank (comments ids p) := by
  unfold comments
  cases p.enumeratorComments with
  | none => exact Or.inl rfl
  | some v => exact Or.inr rfl

theorem exists_kindSections (f : Form) (d : Dataset) (p : Parameters) :
    ∃ before after, kindSections f d p = before ++
      selectOneSection f (identifiers d p) (f.catalog.names d.name .selectOne) ++ after ∧
      StartsBlank after := by
  have hassoc : ∀ a b c d e g : List String,
      a ++ b ++ c ++ d ++ e ++ g = a ++ b ++ (c ++ d ++ e ++ g) := by simp
  exact ⟨_, _, (kindSections_eq f d p).trans (hassoc ..),
    (((startsBlank_sectionOf ..).append (startsBlank_sectionOf ..)).append
      (startsBlank_sectionOf ..)).append (startsBlank_sectionOf ..)⟩

/-- When there are select-one variables, their checks follow the heading one by one, and after them
the part ends or an empty line comes. -/
theorem exists_selectOne_part (h : f.catalog.names d.name .selectOne ≠ []) :
    ∃ before after, part f p d = before ++
        selectOneHeading :: (f.catalog.names d.name .selectOne).flatMap
          (selectOneCheck f (identifiers d p)) ++ after ∧ StartsBlank after := by
  have hne : (f.catalog.names d.name .selectOne).isEmpty = false := by simpa using h
  have hsection : selectOneSection f (identifiers d p) (f.catalog.names d.name .selectOne) =
      ["", selectOneHeading] ++ (f.catalog.names d.name .selectOne).flatMap
        (selectOneCheck f (identifiers d p)) := by
    rw [selectOneSection, sectionOf, hne]
    rfl
  have hcomments : StartsBlank
      (if d.name = surveyDataset then comments (identifiers d p) p else []) := by
    split
    · exact startsBlank_comments ..
    · exact Or.inl rfl
  obtain ⟨before, after, hsections, hafter⟩ := exists_kindSections f d p
  refine ⟨opening d ++ (if d.name = surveyDataset then surveySetup p else []) ++ before ++ [""],
    after ++ _, ?_, hafter.append hcomments⟩
  rw [part, hsections, hsection]
  simp only [List.append_assoc, List.cons_append, List.nil_append]

/-! ### What only the survey dataset has -/

theorem marked_duplicates_part (f : Form) (p : Parameters) (d : Dataset) :
    marked "duplicates tag " (part f p d) =
      if d.name = surveyDataset then
        ["duplicates tag " ++ spaced p.uniqueIds ++ ", generate(_hfc_dup)"]
      else [] := by
  have hsuccess : marked "duplicates tag " (successFilter p) = [] :=
    marked_eq_nil (by decide) (opens_successFilter p)
  have hcorrections : marked "duplicates tag " (corrections p) = [] :=
    marked_eq_nil (by decide) (opens_corrections p)
  have hduplicates : marked "duplicates tag " (duplicateIds p) =
      ["duplicates tag " ++ spaced p.uniqueIds ++ ", generate(_hfc_dup)"] := by
    simp [marked, duplicateIds, Starts]
  rw [marked_part_of_setup (by decide) (by decide) (by decide), surveySetup, marked_append,
    marked_append, hsuccess, hcorrections, hduplicates]
  rfl

theorem marked_keep_part (f : Form) (p : Parameters) (d : Dataset) :
    marked "keep if " (part f p d) =
      if d.name = surveyDataset then p.successCondition.toList.map ("keep if " ++ ·) else [] := by
  have hcorrections : marked "keep if " (corrections p) = [] :=
    marked_eq_nil (by decide) (opens_corrections p)
  have hduplicates : marked "keep if " (duplicateIds p) = [] :=
    marked_eq_nil (by decide) (opens_duplicateIds p)
  have hsuccess : marked "keep if " (successFilter p) =
      p.successCondition.toList.map ("keep if " ++ ·) := by
    refine List.filter_eq_self.mpr fun l hl => ?_
    obtain ⟨t, -, rfl⟩ := List.mem_map.mp hl
    simpa using starts_append "keep if " t
  rw [marked_part_of_setup (by decide) (by decide) (by decide), surveySetup, marked_append,
    marked_append, hsuccess, hcorrections, hduplicates]
  simp

theorem marked_corrections_part (f : Form) (p : Parameters) (d : Dataset) :
    marked "* Corrections" (part f p d) =
      if d.name = surveyDataset then p.correctionsFile.toList.map fun _ => "* Corrections"
      else [] := by
  have hsuccess : marked "* Corrections" (successFilter p) = [] :=
    marked_eq_nil (by decide) (opens_successFilter p)
  have hduplicates : marked "* Corrections" (duplicateIds p) = [] :=
    marked_eq_nil (by decide) (opens_duplicateIds p)
  have hcorrections : marked "* Corrections" (corrections p) =
      p.correctionsFile.toList.map fun _ => "* Corrections" := by
    cases hfile : p.correctionsFile with
    | none =>
      rw [corrections, hfile]
      rfl
    | some file =>
      obtain ⟨below, hbelow, hopens⟩ := exists_corrections hfile
      rw [hbelow, marked_append, marked_eq_nil (by decide) hopens]
      rfl
  rw [marked_part_of_setup (by decide) (by decide) (by decide), surveySetup, marked_append,
    marked_append, hsuccess, hcorrections, hduplicates]
  simp

theorem surveySetup_within_part (f : Form) (p : Parameters) :
    surveySetup p <:+: part f p Dataset.survey :=
  ⟨opening Dataset.survey, kindSections f Dataset.survey p ++
    comments (identifiers Dataset.survey p) p, by simp [part, Dataset.survey]⟩

/-! ## The whole script -/

theorem marked_lines {mark : String} (h : Apart mark frameWords) :
    marked mark (lines f p) = f.datasets.flatMap fun d => marked mark (part f p d) := by
  have hclosing : Opens frameWords ["", "log close", ""] := by decide
  rw [lines, marked_append, marked_append, marked_flatMap, marked_eq_nil h (opens_preamble f p),
    marked_eq_nil h hclosing, List.append_nil, List.nil_append]

/-- What stands in the part of the survey dataset only stands once in the script. -/
theorem flatMap_survey {rest : List Dataset} (xs : List String)
    (hnodup : ((Dataset.survey :: rest).map (·.name)).Nodup) :
    ((Dataset.survey :: rest).flatMap fun d => if d.name = surveyDataset then xs else []) =
      xs := by
  have hrest : (rest.flatMap fun d => if d.name = surveyDataset then xs else []) = [] := by
    refine List.flatMap_eq_nil_iff.mpr fun d hd => if_neg fun heq => ?_
    exact (List.nodup_cons.mp hnodup).1 (List.mem_map.mpr ⟨d, hd, heq⟩)
  rw [List.flatMap_cons, hrest, List.append_nil]
  rfl

end Part

/-! ## The mirror -/

/-- The lines of a script mirror the catalog of the form: what each dataset and each bucket has, and
what the settings ask for. -/
structure Mirrors (f : Form) (s : Settings) (ls : List String) : Prop where
  /-- The lines are the preamble, the parts in the sequence of the datasets, and the end. -/
  parts : ls = preamble f s.asParameters ++ f.datasets.flatMap (part f s.asParameters) ++
    ["", "log close", ""]
  /-- Each dataset is loaded once, in the sequence of the datasets. -/
  uses : marked "use \"" ls = f.datasets.map useLine
  /-- Each dataset is loaded in its part. -/
  use : ∀ d ∈ f.datasets, marked "use \"" (part f s.asParameters d) = [useLine d]
  /-- In the part of a dataset, the variables of a kind are kept in one list, which is left out when
  there are none. -/
  lists : ∀ d ∈ f.datasets, ∀ kl ∈ listed,
    marked ("local " ++ kl.2 ++ " \"") (part f s.asParameters d) =
      if f.catalog.names d.name kl.1 = [] then []
      else ["local " ++ kl.2 ++ " \"" ++ " ".intercalate (f.catalog.names d.name kl.1) ++ "\""]
  /-- The heading of the select-one section stands once, and not when there are no variables. -/
  heading : ∀ d ∈ f.datasets, marked selectOneHeading (part f s.asParameters d) =
    if f.catalog.names d.name .selectOne = [] then [] else [selectOneHeading]
  /-- One check for each select-one variable follows the heading, in the sequence of the bucket, and
  then the part ends or an empty line comes. -/
  checks : ∀ d ∈ f.datasets, f.catalog.names d.name .selectOne ≠ [] →
    ∃ (before after : List String) (check : String → String),
      part f s.asParameters d = before ++
        selectOneHeading :: (f.catalog.names d.name .selectOne).flatMap (fun n =>
          ["capture confirm variable " ++ n, "if !_rc \x7b", "    " ++ check n, "\x7d"]) ++
        after ∧ (after = [] ∨ after.head? = some "")
  /-- The survey dataset is the first one, and no other dataset is called so. -/
  survey : ∃ rest, f.datasets = Dataset.survey :: rest ∧ ∀ d ∈ rest, d.name ≠ surveyDataset
  /-- The search for duplicates stands once, in the part of the survey dataset. -/
  duplicates : marked "duplicates tag " ls =
      ["duplicates tag " ++ " ".intercalate s.ids ++ ", generate(_hfc_dup)"] ∧
    duplicateIds s.asParameters <:+: part f s.asParameters Dataset.survey
  /-- The filter stands once, in the part of the survey dataset, if a condition is given. -/
  filter : marked "keep if " ls = (s.given? .successCondition).toList.map ("keep if " ++ ·) ∧
    marked "keep if " (part f s.asParameters Dataset.survey) = marked "keep if " ls
  /-- The corrections stand once, in the part of the survey dataset, if a file is given. -/
  corrections : marked "* Corrections" ls =
      (s.given? .correctionsFile).toList.map (fun _ => "* Corrections") ∧
    Script.corrections s.asParameters <:+: part f s.asParameters Dataset.survey

/-- The script of an analysed form with valid settings mirrors the catalog of the form, when no text
that stands in it holds a line feed. -/
theorem ofSettings_mirrors {survey choices : Sheet} {name : String} {f : Form} {s : Settings}
    (hf : Form.parse survey choices name = .ok f) (hs : s.IsValid) (h : HasPlainTexts f s) :
    ∃ t, ofSettings f s = .ok t ∧ Mirrors f s (Text.lines t) := by
  obtain ⟨⟨rest, hrest⟩, hnodup, -⟩ := datasets_of_parse hf
  have honce : ∀ xs, (f.datasets.flatMap fun d => if d.name = surveyDataset then xs else []) = xs :=
    fun xs => by rw [hrest]; exact flatMap_survey xs (hrest ▸ hnodup)
  have hothers : ∀ d ∈ rest, d.name ≠ surveyDataset := by
    intro d hd heq
    rw [hrest] at hnodup
    exact (List.nodup_cons.mp hnodup).1 (List.mem_map.mpr ⟨d, hd, heq⟩)
  refine ⟨_, ofSettings_of_parse hf hs, ?_⟩
  rw [lines_text hf h]
  refine ⟨rfl, ?uses, fun d _ => marked_use_part .., ?lists, ?heading, ?checks,
    ⟨rest, hrest, hothers⟩, ⟨?duplicates, ?duplicatesWithin⟩, ⟨?filter, ?filterWithin⟩,
    ⟨?corrections, ?correctionsWithin⟩⟩
  case uses =>
    rw [marked_lines (by decide)]
    simp only [marked_use_part]
    exact List.map_eq_flatMap.symm
  case lists =>
    intro d _ kl hkl
    rw [marked_list_part _ _ _ kl hkl]
    simp [listLine, spaced]
  case heading =>
    intro d _
    rw [marked_selectOne_part]
    simp
  case checks =>
    intro d _ hne
    obtain ⟨before, after, hpart, hafter⟩ := exists_selectOne_part hne
    exact ⟨before, after, _, hpart, hafter⟩
  case duplicates =>
    rw [marked_lines (by decide)]
    simp only [marked_duplicates_part]
    exact honce _
  case duplicatesWithin =>
    exact (List.suffix_append ..).isInfix.trans (surveySetup_within_part f _)
  case filter =>
    rw [marked_lines (by decide)]
    simp only [marked_keep_part]
    exact honce _
  case filterWithin =>
    rw [marked_lines (by decide)]
    simp only [marked_keep_part]
    rw [honce]
    rfl
  case corrections =>
    rw [marked_lines (by decide)]
    simp only [marked_corrections_part]
    exact honce _
  case correctionsWithin =>
    exact List.IsInfix.trans ⟨_, _, rfl⟩ (surveySetup_within_part f _)

/-- A script of three datasets. -/
theorem ofSettings_mirrors_nestedSurvey :
    Form.parse Form.nestedSurvey Form.noChoices "visits" = .ok (Form.nestedForm "visits") ∧
      Settings.visits.IsValid ∧ HasPlainTexts (Form.nestedForm "visits") Settings.visits ∧
      ∃ t, ofSettings (Form.nestedForm "visits") Settings.visits = .ok t ∧
        Mirrors (Form.nestedForm "visits") Settings.visits (Text.lines t) := by
  have hplain : HasPlainTexts (Form.nestedForm "visits") Settings.visits :=
    ⟨by decide, by decide +kernel, by decide +kernel, by decide +kernel⟩
  exact ⟨Form.parse_nestedSurvey _, Settings.isValid_visits, hplain,
    ofSettings_mirrors (Form.parse_nestedSurvey _) Settings.isValid_visits hplain⟩

end SurveyChecks.Script
