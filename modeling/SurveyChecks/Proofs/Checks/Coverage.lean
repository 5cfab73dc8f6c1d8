import SurveyChecks.Proofs.Checks.Independence

/-!
# Coverage by choice lists

By what stands at the guards of a script, the tabulated select-one variables are those whose list
the report misses and those without a list; only a list with an empty name comes in between, which
serves every question without a list and which the report counts as unused.
-/

namespace SurveyChecks.Script

open SurveyChecks.Text

/-! ## Coverage -/

/-- No list covers a question: the report misses its list, or it refers to none and there is no list
with an empty name. -/
def Uncovered (f : Form) (q : Question) : Prop :=
  (q.choiceList? = none ∧ "" ∉ f.choiceLists.keys) ∨
    ∃ list ∈ (Report.ofForm f).missingLists, q.choiceList? = some list

section Parsed

variable {survey choices : Sheet} {formName : String} {f : Form} {s : Settings} {q : Question}
  (hf : Form.parse survey choices formName = .ok f)
  (hdup : (Report.ofForm f).duplicateNames = []) (hq : q ∈ f.questions)
  (hkind : q.kind = some .selectOne)
include hf

theorem choiceList_eq_nil_iff (list : String) :
    f.choiceList list = [] ↔ list ∉ f.choiceLists.keys := by
  obtain ⟨cs, qs, gs, -, -, -, rfl⟩ := Form.parse_eq_ok_iff.mp hf
  exact OrderedMap.getD_get?_groupBy_eq_nil_iff

include hq in
/-- A question is uncovered when the list that serves it has no choices. -/
theorem uncovered_iff : Uncovered f q ↔ q.choiceList?.getD "" ∉ f.choiceLists.keys := by
  unfold Uncovered
  cases hlist : q.choiceList? with
  | none => simp
  | some list =>
    have hne : list ≠ "" := fun hempty => Form.choiceList?_ne_empty hf hq (hempty ▸ hlist)
    have hrefer : ∃ q ∈ f.questions, q.choiceList? = some list := ⟨q, hq, hlist⟩
    simp [Report.mem_missingLists, hne, hrefer]

include hdup hq hkind in
theorem codesOf_of_mem :
    codesOf f q.name = (f.choiceList (q.choiceList?.getD "")).map (·.code) := by
  have hname := (Form.selectOne_of_parse hf hq hkind).1
  rw [codesOf, Report.question?_of_mem hdup hq hname, Option.bind_some]

include hq in
theorem exists_dataset_of_mem : ∃ d ∈ f.datasets, d.name = q.dataset := by
  obtain ⟨cs, qs, gs, -, -, -, rfl⟩ := Form.parse_eq_ok_iff.mp hf
  obtain ⟨q₀, -, rfl⟩ := List.mem_map.mp hq
  exact List.mem_map.mp (Dataset.place_dataset_mem_build gs q₀)

include hq hkind in
theorem name_mem_names : q.name ∈ f.catalog.names q.dataset .selectOne := by
  rw [Form.names_of_parse hf, if_pos (by decide)]
  exact List.mem_map_of_mem (List.mem_filter.mpr ⟨hq, by simp [Catalog.filed, hkind]⟩)

include hdup hq hkind in
/-- What stands at the guards of a select-one variable: its check in the part of its dataset, and
the comments when it holds the enumerators' comments. -/
theorem mem_guards_lines_iff {p : Parameters} {y : String} :
    (confirmLine q.name, y) ∈ guards (lines f p) ↔
      (∃ d ∈ f.datasets, d.name = q.dataset ∧
        y = checkLine (identifiers d p) q.name (codesOf f q.name)) ∨
      (p.enumeratorComments = some q.name ∧
        y = commentLine (identifiers Dataset.survey p) q.name) := by
  have hname := (Form.selectOne_of_parse hf hq hkind).1
  obtain ⟨⟨rest, hsurvey⟩, -, -⟩ := datasets_of_parse hf
  rw [guards_lines, List.mem_flatMap]
  constructor
  · rintro ⟨d, hd, hmem⟩
    rcases mem_partGuards_iff.mp hmem with ⟨n, hn, hconfirm, rfl⟩ | ⟨hd', v, hv, hconfirm, rfl⟩
    · obtain rfl := confirmLine_injective hconfirm
      -- another question of the name would be a duplicate
      obtain ⟨q', hq', hdataset, -, hname'⟩ := exists_question_of_mem_names hf hn
      have hsame : q' = q := by
        have hfound := Report.question?_of_mem hdup hq' (hname' ▸ hname)
        rw [hname', Report.question?_of_mem hdup hq hname] at hfound
        exact (Option.some.inj hfound).symm
      exact Or.inl ⟨d, hd, by rw [← hdataset, hsame], rfl⟩
    · obtain rfl := confirmLine_injective hconfirm
      have hids : identifiers d p = identifiers Dataset.survey p := by
        unfold identifiers
        rw [hd']
        rfl
      exact Or.inr ⟨hv, by rw [hids]⟩
  · rintro (⟨d, hd, hdname, rfl⟩ | ⟨hcomments, rfl⟩)
    · have hn : q.name ∈ f.catalog.names d.name .selectOne := by
        rw [hdname]
        exact name_mem_names hf hq hkind
      exact ⟨d, hd, mem_partGuards_iff.mpr (Or.inl ⟨q.name, hn, rfl, rfl⟩)⟩
    · exact ⟨Dataset.survey, hsurvey ▸ List.mem_cons_self ..,
        mem_partGuards_iff.mpr (Or.inr ⟨rfl, q.name, hcomments, rfl, rfl⟩)⟩

include hdup hq hkind in
/-- In the script of an analysed form without duplicate names, a select-one variable is tabulated
just when no list covers its question, and otherwise its values are checked. Each check is against
the codes of a list that the question refers to, so that the list is not unused, or, when the
question refers to none, of the list with an empty name. -/
theorem ofSettings_coverage (hs : s.IsValid) :
    ofSettings f s = .ok ("\n".intercalate (lines f s.asParameters)) ∧
      ([confirmLine q.name, guardLine, tabLine q.name] <:+: lines f s.asParameters ↔
        Uncovered f q) ∧
      ((∃ ids codes, [confirmLine q.name, guardLine, rangeLine ids q.name codes] <:+:
        lines f s.asParameters) ↔ ¬ Uncovered f q) ∧
      ∀ ids codes, [confirmLine q.name, guardLine, rangeLine ids q.name codes] <:+:
          lines f s.asParameters →
        ∃ d ∈ f.datasets, d.name = q.dataset ∧ ∃ list ∈ f.choiceLists.keys,
          rangeLine ids q.name codes = rangeLine (identifiers d s.asParameters) q.name
            ((f.choiceList list).map (·.code)) ∧
          ((q.choiceList? = some list ∧ list ∉ (Report.ofForm f).unusedLists) ∨
            (q.choiceList? = none ∧ list = "")) := by
  have hguards : ∀ y, [confirmLine q.name, guardLine, y] <:+: lines f s.asParameters ↔ _ :=
    fun y => mem_guards_iff.symm.trans (mem_guards_lines_iff hf hdup hq hkind)
  have hcodes : codesOf f q.name = [] ↔ Uncovered f q := by
    rw [codesOf_of_mem hf hdup hq hkind, List.map_eq_nil_iff, choiceList_eq_nil_iff hf,
      uncovered_iff hf hq]
  -- a range below the guard of the variable is its check, and not the tabulation
  have hrange : ∀ {ids codes}, [confirmLine q.name, guardLine, rangeLine ids q.name codes] <:+:
      lines f s.asParameters → ¬ Uncovered f q ∧ ∃ d ∈ f.datasets, d.name = q.dataset ∧
        rangeLine ids q.name codes =
          rangeLine (identifiers d s.asParameters) q.name (codesOf f q.name) := by
    intro ids codes h
    rcases (hguards _).mp h with ⟨d, hd, hdname, heq⟩ | ⟨-, heq⟩
    · by_cases hnil : codesOf f q.name = []
      · rw [checkLine, if_pos hnil] at heq
        exact absurd heq.symm tabLine_ne_rangeLine
      · rw [checkLine, if_neg hnil] at heq
        exact ⟨mt hcodes.mpr hnil, d, hd, hdname, heq⟩
    · exact absurd heq rangeLine_ne_commentLine
  obtain ⟨d, hd, hdname⟩ := exists_dataset_of_mem hf hq
  refine ⟨ofSettings_of_parse hf hs, ⟨fun h => ?tab, fun h => ?uncovered⟩,
    ⟨fun ⟨ids, codes, h⟩ => (hrange h).1, fun h => ?covered⟩, fun ids codes h => ?list⟩
  case tab =>
    rcases (hguards _).mp h with ⟨d, -, -, heq⟩ | ⟨-, heq⟩
    · by_cases hnil : codesOf f q.name = []
      · exact hcodes.mp hnil
      · rw [checkLine, if_neg hnil] at heq
        exact absurd heq tabLine_ne_rangeLine
    · exact absurd heq tabLine_ne_commentLine
  case uncovered =>
    refine (hguards _).mpr (Or.inl ⟨d, hd, hdname, ?_⟩)
    rw [checkLine, if_pos (hcodes.mpr h)]
  case covered =>
    refine ⟨identifiers d s.asParameters, codesOf f q.name,
      (hguards _).mpr (Or.inl ⟨d, hd, hdname, ?_⟩)⟩
    rw [checkLine, if_neg (mt hcodes.mp h)]
  case list =>
    obtain ⟨hcovered, d, hd, hdname, heq⟩ := hrange h
    rw [codesOf_of_mem hf hdup hq hkind] at heq
    rw [uncovered_iff hf hq, not_not] at hcovered
    refine ⟨d, hd, hdname, _, hcovered, heq, ?_⟩
    cases hlist : q.choiceList? with
    | none => exact Or.inr ⟨rfl, rfl⟩
    | some list =>
      have hne : list ≠ "" := fun hempty => Form.choiceList?_ne_empty hf hq (hempty ▸ hlist)
      exact Or.inl ⟨rfl, fun hunused =>
        (Report.mem_unusedLists.mp hunused).2 ⟨⟨q, hq, hlist⟩, hne⟩⟩

end Parsed

/-! ## A list without a name -/

/-- The first question of the poll refers to a list with codes, so its values are checked. -/
theorem ofSettings_coverage_poll :
    ∃ q ∈ pollForm.questions, q.name = "agrees" ∧ ¬ Uncovered pollForm q ∧
      ∃ ids codes, [confirmLine "agrees", guardLine, rangeLine ids "agrees" codes] <:+:
        lines pollForm Settings.visits.asParameters := by
  have hquestion : ∃ q ∈ pollForm.questions, q.name = "agrees" ∧ q.kind = some .selectOne ∧
      q.choiceList? = some "yn" := by
    decide +kernel
  obtain ⟨q, hq, hname, hkind, hlist⟩ := hquestion
  have hcovered : ¬ Uncovered pollForm q := by
    have hcodes : Choice.codesIn pollChoices "yn" = [1, 2] := by decide +kernel
    rw [uncovered_iff parse_poll hq, hlist, Option.getD_some,
      ← choiceList_eq_nil_iff parse_poll, ← List.map_eq_nil_iff (f := (·.code)),
      Choice.codes_choiceList parse_poll, hcodes]
    decide
  obtain ⟨-, -, hrange, -⟩ :=
    ofSettings_coverage parse_poll (by decide +kernel) hq hkind Settings.isValid_visits
  exact ⟨q, hq, hname, hcovered, hname ▸ hrange.mpr hcovered⟩

/-- One question that asks for one option of no list. -/
def namelessSurvey : Sheet :=
  ⟨"survey", ["type", "name", "label"], [Form.surveyRow "select_one" "agrees" ""]⟩

/-- One option of a list with an empty name. -/
def namelessChoices : Sheet :=
  ⟨"choices", ["list_name", "name", "label"], [choiceRow "" "1" "Yes"]⟩

/-- The analysis of the question without a list. -/
def namelessForm : Form :=
  Form.analysed "poll" ((Choice.readings namelessChoices).filterMap Choice.Reading.choice?)
    (Question.ofRows namelessSurvey.columns namelessSurvey.rows) []

theorem parse_nameless : Form.parse namelessSurvey namelessChoices "poll" = .ok namelessForm := by
  have hload : Choice.Loads namelessChoices := ⟨rfl, by unfold Choice.HasLongCode; decide +kernel⟩
  exact Form.parse_of_markers_nil ⟨rfl, Question.legible_of_isTextual rfl⟩
    (Choice.load_of_loads hload (Choice.legible_of_isTextual rfl)) (by decide +kernel)

/-- The question refers to no list, and still its values are checked against the code of the list
with an empty name, which the report counts as unused. -/
theorem range_of_nameless_list :
    Form.parse namelessSurvey namelessChoices "poll" = .ok namelessForm ∧
      (Report.ofForm namelessForm).duplicateNames = [] ∧ Settings.visits.IsValid ∧
      "" ∈ (Report.ofForm namelessForm).unusedLists ∧
      ∃ q ∈ namelessForm.questions, q.name = "agrees" ∧ q.kind = some .selectOne ∧
        q.choiceList? = none ∧
        ∃ ids, [confirmLine "agrees", guardLine, rangeLine ids "agrees" [1]] <:+:
          lines namelessForm Settings.visits.asParameters := by
  have hdup : (Report.ofForm namelessForm).duplicateNames = [] := by decide +kernel
  have hquestion : ∃ q ∈ namelessForm.questions, q.name = "agrees" ∧ q.kind = some .selectOne ∧
      q.choiceList? = none := by
    decide +kernel
  have hcodes : (namelessForm.choiceList "").map (·.code) = [1] := by
    rw [Choice.codes_choiceList parse_nameless]
    decide +kernel
  have hkey : "" ∈ namelessForm.choiceLists.keys := by
    by_contra hnone
    rw [(choiceList_eq_nil_iff parse_nameless "").mpr hnone] at hcodes
    exact absurd hcodes (by decide)
  obtain ⟨q, hq, hname, hkind, hlist⟩ := hquestion
  have hcodesOf := codesOf_of_mem parse_nameless hdup hq hkind
  rw [hlist, Option.getD_none, hcodes] at hcodesOf
  obtain ⟨d, hd, hdname⟩ := exists_dataset_of_mem parse_nameless hq
  refine ⟨parse_nameless, hdup, Settings.isValid_visits,
    Report.mem_unusedLists.mpr ⟨hkey, fun hused => hused.2 rfl⟩, q, hq, hname, hkind, hlist,
    identifiers d Settings.visits.asParameters, ?_⟩
  rw [← hname]
  refine mem_guards_iff.mp ((mem_guards_lines_iff parse_nameless hdup hq hkind).mpr
    (Or.inl ⟨d, hd, hdname, ?_⟩))
  rw [checkLine, hcodesOf, if_neg (by decide)]

end SurveyChecks.Script
