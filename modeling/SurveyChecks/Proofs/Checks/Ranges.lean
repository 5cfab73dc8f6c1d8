import SurveyChecks.Proofs.Checks.Guards
import SurveyChecks.Proofs.Form.ChoiceLists
import SurveyChecks.Proofs.Form.Kinds
import SurveyChecks.Proofs.Report

/-!
# Ranges of select-one variables

In the part of its dataset, a select-one variable is checked against the codes that the choices
sheet has for its list, or tabulated when the sheet has none. A tabulation below the guard of a
variable is that of a variable without codes.
-/

namespace SurveyChecks.Script

open SurveyChecks.Text

/-! ## Checks and tabulations -/

section Part

variable {f : Form} {p : Parameters} {d : Dataset} {name : String}

/-- A tabulation below a guard says that the variable has no codes. -/
theorem codesFor_of_tabLine {before : String}
    (h : [before, guardLine, tabLine name] <:+: part f p d) : codesFor f name = [] := by
  have hguard : (before, tabLine name) ∈ partGuards f p d := by
    rw [← (hasGuards_part f p d).eq]
    exact mem_guards_iff.mpr h
  rcases mem_partGuards_iff.mp hguard with ⟨n, -, -, hcheck⟩ | ⟨-, v, -, -, hcomment⟩
  · obtain ⟨hcodes, rfl⟩ := checkLine_eq_tabLine_iff.mp hcheck.symm
    rw [codesFor_eq, hcodes, List.map_nil]
  · exact absurd hcomment tabLine_ne_commentLine

/-- The check of a select-one variable stands in the part. -/
theorem selectOneCheck_within_part (h : name ∈ f.catalog.names d.name .selectOne) :
    selectOneCheck f (identifiers d p) name <:+: part f p d := by
  obtain ⟨before, after, hpart, -⟩ := exists_selectOne_part (p := p) (List.ne_nil_of_mem h)
  have hcheck : selectOneCheck f (identifiers d p) name <:+:
      (f.catalog.names d.name .selectOne).flatMap (selectOneCheck f (identifiers d p)) :=
    List.infix_flatMap_of_mem h _
  rw [hpart]
  exact hcheck.trans ⟨before ++ [selectOneHeading], after, by simp⟩

end Part

/-! ## Ranges -/

section Parsed

variable {survey choices : Sheet} {name list : String} {f : Form} {s : Settings} {q : Question}

/-- The codes that a select-one variable is checked against are those that the choices sheet has for
the list of its question. -/
theorem codesFor_of_parse (hf : Form.parse survey choices name = .ok f)
    (hdup : (Report.ofForm f).duplicateNames = []) (hq : q ∈ f.questions)
    (hkind : q.kind = some .selectOne) (hlist : q.tokens[1]? = some list) :
    codesFor f q.name = (Choice.codesIn choices list).map toString := by
  obtain ⟨hname, hchoice⟩ := Form.selectOne_of_parse hf hq hkind
  have hquestion := Report.question?_of_mem hdup hq hname
  rw [codesFor, hquestion, Option.bind_some, hchoice, hlist, Option.getD_some,
    ← Choice.codes_choiceList hf list, List.map_map]
  rfl

/-- In the script of an analysed form without duplicate names, a select-one question that refers to
a list is checked in the part of its dataset: its values are listed when they are none of the
distinct codes of the list in the choices sheet, or tabulated just when the sheet has none. -/
theorem ofSettings_selectOne (hf : Form.parse survey choices name = .ok f)
    (hdup : (Report.ofForm f).duplicateNames = []) (hs : s.IsValid) (h : HasPlainTexts f s)
    (hq : q ∈ f.questions) (hkind : q.kind = some .selectOne)
    (hlist : q.tokens[1]? = some list) :
    ∃ t, ofSettings f s = .ok t ∧
      Text.lines t = preamble f s.asParameters ++ f.datasets.flatMap (part f s.asParameters) ++
        ["", "log close", ""] ∧
      ∃ d ∈ f.datasets, d.name = q.dataset ∧
        ((∃ row ∈ choices.rows,
            Choice.isOption (Choice.listColumn choices.columns) list row) →
          [confirmLine q.name, guardLine,
            rangeLine (identifiers d s.asParameters) q.name (Choice.codesIn choices list)] <:+:
            part f s.asParameters d) ∧
        ([confirmLine q.name, guardLine, tabLine q.name] <:+: part f s.asParameters d ↔
          ¬ ∃ row ∈ choices.rows,
            Choice.isOption (Choice.listColumn choices.columns) list row) := by
  have hcodes := codesFor_of_parse hf hdup hq hkind hlist
  have hdataset : ∃ d ∈ f.datasets, d.name = q.dataset := by
    obtain ⟨cs, qs, gs, -, -, -, rfl⟩ := Form.parse_eq_ok_iff.mp hf
    obtain ⟨q₀, -, rfl⟩ := List.mem_map.mp hq
    exact List.mem_map.mp (Dataset.place_dataset_mem_build gs q₀)
  obtain ⟨d, hd, hdname⟩ := hdataset
  have hin : q.name ∈ f.catalog.names d.name .selectOne := by
    rw [Form.names_of_parse hf, if_pos (by decide)]
    exact List.mem_map_of_mem (List.mem_filter.mpr ⟨hq, by simp [Catalog.filed, hdname, hkind]⟩)
  have hcheck := selectOneCheck_within_part (p := s.asParameters) hin
  rw [selectOneCheck_of_codes hcodes] at hcheck
  refine ⟨_, ofSettings_of_parse hf hs, lines_text hf h, d, hd, hdname, ?range, ?tab, ?none⟩
  case range =>
    intro hrow
    have hne : Choice.codesIn choices list ≠ [] := fun hnil =>
      Choice.codesIn_eq_nil_iff.mp hnil hrow
    rw [if_neg hne] at hcheck
    exact List.IsInfix.trans ⟨[], ["\x7d"], rfl⟩ hcheck
  case tab =>
    intro htab
    have hnil := codesFor_of_tabLine htab
    rw [hcodes] at hnil
    exact Choice.codesIn_eq_nil_iff.mp (List.map_eq_nil_iff.mp hnil)
  case none =>
    intro hnone
    rw [if_pos (Choice.codesIn_eq_nil_iff.mpr hnone)] at hcheck
    exact List.IsInfix.trans ⟨[], ["\x7d"], rfl⟩ hcheck

end Parsed

/-! ## A poll -/

/-- Two select-one questions, of which one refers to a list without codes. -/
def pollSurvey : Sheet :=
  ⟨"survey", ["type", "name", "label"],
    [Form.surveyRow "select_one yn" "Agrees" "", Form.surveyRow "select_one other" "why" ""]⟩

/-- A row of a choices sheet with a list name, a name and a label. -/
def choiceRow (list name label : String) : Row :=
  [("list_name", .text list), ("name", .text name), ("label", .text label)]

/-- One code twice, another one, and a row that is no option. -/
def pollChoices : Sheet :=
  ⟨"choices", ["list_name", "name", "label"],
    [choiceRow "y n" "01" "Yes", choiceRow "yn" "1" "", choiceRow "yn" " 2" "No",
      choiceRow "yn" "x" "?"]⟩

/-- The analysis of the poll. -/
def pollForm : Form :=
  Form.analysed "poll" ((Choice.readings pollChoices).filterMap Choice.Reading.choice?)
    (Question.ofRows pollSurvey.columns pollSurvey.rows) []

theorem parse_poll : Form.parse pollSurvey pollChoices "poll" = .ok pollForm := by
  have hload : Choice.Loads pollChoices := ⟨rfl, by unfold Choice.HasLongCode; decide +kernel⟩
  exact Form.parse_of_markers_nil ⟨rfl, Question.legible_of_isTextual rfl⟩
    (Choice.load_of_loads hload (Choice.legible_of_isTextual rfl)) (by decide +kernel)

/-- The first question of the poll is checked against two codes. -/
theorem ofSettings_selectOne_poll :
    ∃ t, ofSettings pollForm Settings.visits = .ok t ∧
      ∃ d ∈ pollForm.datasets, d.name = surveyDataset ∧
        [confirmLine "agrees", guardLine,
          rangeLine (identifiers d Settings.visits.asParameters) "agrees" [1, 2]] <:+:
          part pollForm Settings.visits.asParameters d := by
  have hplain : HasPlainTexts pollForm Settings.visits :=
    ⟨by decide, by decide +kernel, by decide +kernel, by decide +kernel⟩
  have hquestion : ∃ q ∈ pollForm.questions, q.name = "agrees" ∧ q.dataset = surveyDataset ∧
      q.kind = some .selectOne ∧ q.tokens[1]? = some "yn" := by decide +kernel
  have hcodes : Choice.codesIn pollChoices "yn" = [1, 2] := by decide +kernel
  obtain ⟨q, hq, hname, hdataset, hkind, hlist⟩ := hquestion
  obtain ⟨t, ht, -, d, hd, hdname, hrange, -⟩ := ofSettings_selectOne parse_poll
    (by decide +kernel) Settings.isValid_visits hplain hq hkind hlist
  rw [hname, hcodes] at hrange
  exact ⟨t, ht, d, hd, hdname.trans hdataset, hrange (by decide +kernel)⟩

end SurveyChecks.Script
