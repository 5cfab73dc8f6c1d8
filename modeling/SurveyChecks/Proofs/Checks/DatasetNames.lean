import SurveyChecks.Proofs.Checks.Lines
import SurveyChecks.Proofs.Form.Composition
import SurveyChecks.Proofs.Form.Kinds
import SurveyChecks.Proofs.Form.SafeText
import SurveyChecks.Proofs.Text.Lowercase

/-!
# The names of datasets

A dataset is named by the label of a row that opens a repeat group, or by the name of the row when
its label is empty. Labels are made safe for scripts but may be blank, and names are not made safe:
so a dataset name can stand in a script just when its row has a label that is not blank, or no label
and a name that can stand there itself.
-/

namespace SurveyChecks

open SurveyChecks.Text

/-! ## Texts that can stand in a script -/

/-- A character that means something else in a script than itself, or ends its line. -/
def isScriptMark (c : Char) : Bool := c == '$' || c == '"' || Label.isLineBreak c

/-- A text shows as it is where it is interpolated. -/
structure CanStand (s : String) : Prop where
  shows : ∃ c ∈ s.toList, isBlank c = false
  plain : ∀ c, isScriptMark c → c ∉ s.toList

theorem isUncased_of_isScriptMark {c : Char} (h : isScriptMark c) : isUncased c := by
  simp only [isScriptMark, Label.isLineBreak, Bool.or_eq_true, beq_iff_eq] at h
  rcases h with (rfl | rfl) | rfl | rfl <;> decide +kernel

theorem canStand_surveyDataset : CanStand surveyDataset where
  shows := ⟨'s', by decide, by decide⟩
  plain c hc hin := by
    have hplain : surveyDataset.toList.all fun c => !isScriptMark c := by decide
    simpa [hc] using List.all_eq_true.mp hplain c hin

/-- These are the characters that a safe label on one line does not have. -/
theorem isScriptMark_iff {c : Char} : isScriptMark c ↔ c ∈ Label.marks true := by
  simp [isScriptMark, Label.isLineBreak, Label.marks, or_assoc]

namespace Question

variable {columns : List String} {row : Row} {rows : List Row} {q : Question}

/-! ## The cells that name a dataset -/

/-- The label of a row that was written for scripts. -/
def rowScriptLabel (columns : List String) (row : Row) : String :=
  if columns.contains workingLabelColumn then rowLabel (some workingLabelColumn) row else ""

/-- The label of a row that scripts use: the one written for them, or the one in the default
language when that is empty. -/
def rowWorkingLabel (columns : List String) (row : Row) : String :=
  if rowScriptLabel columns row = "" then rowLabel (labelColumn? columns) row
  else rowScriptLabel columns row

/-- A row opens a repeat group and has a name. -/
def OpensGroup (row : Row) : Prop :=
  (words (rowType row)).head? = some beginRepeat ∧ rowName row ≠ ""

/-- The name of the dataset of the group that a row opens. -/
def rowDataset (columns : List String) (row : Row) : String :=
  if rowWorkingLabel columns row = "" then rowName row else rowWorkingLabel columns row

/-- The cells of a row name a dataset so that its name can stand in a script. -/
inductive NamesDataset (columns : List String) (row : Row) : Prop where
  /-- By a label that is not blank. -/
  | byLabel (hlabel : rowWorkingLabel columns row ≠ "")
      (hshows : ∃ c ∈ (rowWorkingLabel columns row).toList, isBlank c = false)
  /-- Without a label, by a name in which a character is neither blank nor a dot, and none means
  something else. -/
  | byName (hlabel : rowWorkingLabel columns row = "")
      (hshows : ∃ c ∈ (strip (row.text "name")).toList, isBlank c = false ∧ c ≠ '.')
      (hplain : ∀ c, isScriptMark c → c ∉ (strip (row.text "name")).toList)

theorem isSafe_rowLabel (column : Option String) (row : Row) :
    Label.IsSafe true (rowLabel column row) := by
  cases column with
  | none => exact Label.isSafe_empty
  | some column => exact Label.isSafe_safe true (row.text column)

theorem isSafe_rowWorkingLabel (columns : List String) (row : Row) :
    Label.IsSafe true (rowWorkingLabel columns row) := by
  have hscript : Label.IsSafe true (rowScriptLabel columns row) := by
    unfold rowScriptLabel
    split
    · exact isSafe_rowLabel _ row
    · exact Label.isSafe_empty
  unfold rowWorkingLabel
  split
  · exact isSafe_rowLabel _ row
  · exact hscript

/-- A name keeps a character of its cell that is no letter, unless it is a dot. -/
theorem mem_rowName_iff {c : Char} (hc : isUncased c) :
    c ∈ (rowName row).toList ↔ c ∈ (strip (row.text "name")).toList ∧ c ≠ '.' := by
  rw [rowName, mem_toList_lower_iff hc, without, String.toList_ofList, List.mem_filter]
  simp

theorem shows_rowName_iff :
    (∃ c ∈ (rowName row).toList, isBlank c = false) ↔
      ∃ c ∈ (strip (row.text "name")).toList, isBlank c = false ∧ c ≠ '.' := by
  have hall := not_congr (forall_mem_lower_isBlank_iff
    (s := without (· == '.') (strip (row.text "name"))))
  rw [← rowName] at hall
  simpa [without, and_assoc, and_comm] using hall

theorem plain_rowName_iff :
    (∀ c, isScriptMark c → c ∉ (rowName row).toList) ↔
      ∀ c, isScriptMark c → c ∉ (strip (row.text "name")).toList := by
  refine forall₂_congr fun c hc => not_congr ?_
  have hdot : c ≠ '.' := by
    rintro rfl
    exact absurd hc (by decide)
  rw [mem_rowName_iff (isUncased_of_isScriptMark hc), and_iff_left hdot]

/-- Whether the name of a dataset can stand in a script is decided by the cells of the row. -/
theorem canStand_rowDataset_iff :
    CanStand (rowDataset columns row) ↔ NamesDataset columns row := by
  unfold rowDataset
  by_cases hlabel : rowWorkingLabel columns row = ""
  · rw [if_pos hlabel]
    constructor
    · intro h
      exact .byName hlabel (shows_rowName_iff.mp h.shows) (plain_rowName_iff.mp h.plain)
    · intro h
      cases h with
      | byLabel hne => exact absurd hlabel hne
      | byName _ hshows hplain =>
        exact ⟨shows_rowName_iff.mpr hshows, plain_rowName_iff.mpr hplain⟩
  · rw [if_neg hlabel]
    constructor
    · intro h
      exact .byLabel hlabel h.shows
    · intro h
      cases h with
      | byLabel _ hshows =>
        exact ⟨hshows, fun c hc => isSafe_rowWorkingLabel columns row c (isScriptMark_iff.mp hc)⟩
      | byName hempty => exact absurd hempty hlabel

theorem rowDataset_ne_empty (h : OpensGroup row) : rowDataset columns row ≠ "" := by
  unfold rowDataset
  by_cases hlabel : rowWorkingLabel columns row = ""
  · rw [if_pos hlabel]
    exact h.2
  · rw [if_neg hlabel]
    exact hlabel

/-! ## Rows that open groups -/

/-- A row is kept when it has a name or closes a repeat group, and then each field of the question is
read from the cells. -/
theorem ofRow?_eq_some_iff :
    ofRow? columns row = some q ↔
      (rowName row = "" → (words (rowType row)).head? = some endRepeat) ∧
        q = { name := rowName row, rawType := rowType row, tokens := words (rowType row),
              label := rowLabel (labelColumn? columns) row,
              workingLabel := rowWorkingLabel columns row,
              calculation := some (strip (row.text "calculation")) } := by
  unfold ofRow?
  dsimp only
  by_cases hdrop : rowName row = "" ∧ (words (rowType row)).head? ≠ some endRepeat
  · rw [if_pos hdrop]
    constructor
    · intro h
      contradiction
    · rintro ⟨hkeep, -⟩
      exact absurd (hkeep hdrop.1) hdrop.2
  · have hkeep : rowName row = "" → (words (rowType row)).head? = some endRepeat := by
      intro hname
      by_contra hne
      exact hdrop ⟨hname, hne⟩
    rw [if_neg hdrop, and_iff_right hkeep, Option.some.injEq, eq_comm]
    rfl

theorem workingLabel_of_ofRow? (h : ofRow? columns row = some q) :
    q.name = rowName row ∧ q.workingLabel = rowWorkingLabel columns row := by
  obtain ⟨-, rfl⟩ := ofRow?_eq_some_iff.mp h
  exact ⟨rfl, rfl⟩

theorem datasetNameOf_of_ofRow? (h : ofRow? columns row = some q) :
    RepeatGroup.datasetNameOf q = rowDataset columns row := by
  obtain ⟨hname, hlabel⟩ := workingLabel_of_ofRow? h
  rw [RepeatGroup.datasetNameOf, rowDataset, hname, hlabel]

/-- A question that opens a group is read from a row that opens one. -/
theorem opensGroup_of_ofRow? (hread : ofRow? columns row = some q) (hbase : q.base = beginRepeat) :
    OpensGroup row := by
  constructor
  · rw [base, tokens_of_ofRow? hread] at hbase
    cases hhead : (words (rowType row)).head? with
    | none =>
      rw [hhead] at hbase
      exact absurd hbase (by decide)
    | some word =>
      rw [hhead] at hbase
      exact congrArg some hbase
  · intro hname
    have hclose := base_of_name_eq_empty hread ((workingLabel_of_ofRow? hread).1.trans hname)
    rw [hbase] at hclose
    exact absurd hclose (by decide)

end Question

/-! ## The datasets of groups -/

open Question (OpensGroup rowDataset NamesDataset ofRows)
open Repeat (Matched markersOf)

namespace RepeatGroup

variable {columns : List String} {rows : List Row} {qs : List Question} {ps : List (Int × Int)}

/-- The dataset of a group is named by the question that opens it. -/
theorem exists_opener_of_mem_numbered (hd : Question.DistinctOrders qs)
    (hm : Matched (markersOf qs) ps []) {n : Nat} {g : RepeatGroup} (hg : g ∈ numbered qs n ps) :
    ∃ q ∈ qs, q.base = Question.beginRepeat ∧ q.order = g.first ∧ g.dataset = datasetNameOf q := by
  obtain ⟨⟨p, i⟩, hp, rfl⟩ := List.mem_map.mp hg
  obtain ⟨q, hq, hbase, horder⟩ := hm.exists_opener (List.fst_mem_of_mem_zipIdx hp)
  have hquestion : questionAt? qs p.1 = some q := (questionAt?_eq_some_iff hd).mpr ⟨hq, horder⟩
  refine ⟨q, hq, hbase, horder, ?_⟩
  show datasetNameOf ((questionAt? qs p.1).getD default) = datasetNameOf q
  rw [hquestion, Option.getD_some]

/-- Every question that opens a group names the dataset of one. -/
theorem exists_mem_numbered_of_opener (hd : Question.DistinctOrders qs)
    (hm : Matched (markersOf qs) ps []) (n : Nat) {q : Question} (hq : q ∈ qs)
    (hbase : q.base = Question.beginRepeat) :
    ∃ g ∈ numbered qs n ps, g.dataset = datasetNameOf q := by
  have hopening : q.order ∈ Marker.orders .opening (markersOf qs) :=
    Marker.mem_orders.mpr (Repeat.mem_markersOf hq (Repeat.markerKind?_eq_opening_iff.mpr hbase))
  rw [← hm.map_fst] at hopening
  obtain ⟨p, hp, hpq⟩ := List.mem_map.mp hopening
  obtain ⟨g, hg, hfirst, -⟩ := exists_mem_numbered qs n hp
  obtain ⟨q', hq', -, horder, hdataset⟩ := exists_opener_of_mem_numbered hd hm hg
  have hsame : q' = q := hd.eq_of_order_eq hq' hq (horder.trans (hfirst.trans hpq))
  exact ⟨g, hg, hsame ▸ hdataset⟩

/-- The groups of rows have the datasets that the opening rows name. -/
theorem exists_dataset_iff (hm : Matched (markersOf (ofRows columns rows)) ps []) {d : String} :
    (∃ g ∈ numbered (ofRows columns rows) 1 ps, g.dataset = d) ↔
      ∃ row ∈ rows, OpensGroup row ∧ rowDataset columns row = d := by
  have hd := (Question.ascending_ofRows columns rows).distinctOrders
  constructor
  · rintro ⟨g, hg, rfl⟩
    obtain ⟨q, hq, hbase, -, hdataset⟩ := exists_opener_of_mem_numbered hd hm hg
    obtain ⟨row, hrow, q₀, n, hread, rfl⟩ := Form.exists_row_of_mem_ofRows hq
    refine ⟨row, hrow, Question.opensGroup_of_ofRow? hread hbase, ?_⟩
    rw [hdataset]
    exact (Question.datasetNameOf_of_ofRow? hread).symm
  · rintro ⟨row, hrow, ⟨hword, hname⟩, rfl⟩
    obtain ⟨q₀, hread, hbase, -⟩ := Form.exists_ofRow? columns hword (Or.inl hname)
    obtain ⟨n, hq⟩ := Form.exists_readAt_mem_ofRows hrow hread
    obtain ⟨g, hg, hdataset⟩ := exists_mem_numbered_of_opener hd hm 1 hq hbase
    exact ⟨g, hg, hdataset.trans (Question.datasetNameOf_of_ofRow? (q := q₀) hread)⟩

end RepeatGroup

namespace Form

variable {survey choices : Sheet} {name : String} {f : Form}

theorem mem_map_name_datasets_iff (h : parse survey choices name = .ok f) {d : String} :
    d ∈ f.datasets.map (·.name) ↔
      d = surveyDataset ∨ ∃ row ∈ survey.rows, OpensGroup row ∧ rowDataset survey.columns row = d := by
  obtain ⟨-, cs, ps, -, hm, rfl⟩ := parse_eq_ok_iff_matched.mp h
  rw [← RepeatGroup.exists_dataset_iff hm]
  exact Dataset.mem_map_name_build_iff

/-- The datasets of an analysed form are the survey and those that the opening rows name, by a label
or else by the name of the row, and a dataset is referred to by its name. The name is never empty,
and whether it can stand in a script is decided by the cells of its row: it does when the row has a
label that is not blank, or no label and a name that can stand there. So all names can stand just
when every row that opens a group has such cells. -/
theorem canStand_datasets_iff (h : parse survey choices name = .ok f) :
    (∀ d ∈ f.datasets, d.reference = d.name ∧ d.name ≠ "") ∧
    (∀ d, d ∈ f.datasets.map (·.name) ↔
      d = surveyDataset ∨ ∃ row ∈ survey.rows, OpensGroup row ∧ rowDataset survey.columns row = d) ∧
    (∀ row, CanStand (rowDataset survey.columns row) ↔ NamesDataset survey.columns row) ∧
    ((∀ d ∈ f.datasets, CanStand d.name ∧ CanStand d.reference) ↔
      ∀ row ∈ survey.rows, OpensGroup row → NamesDataset survey.columns row) := by
  have hreference : ∀ d ∈ f.datasets, d.reference = d.name := (Script.datasets_of_parse h).2.2
  refine ⟨fun d hd => ⟨hreference d hd, ?nonempty⟩, fun d => mem_map_name_datasets_iff h,
    fun row => Question.canStand_rowDataset_iff, ?all⟩
  case nonempty =>
    rcases (mem_map_name_datasets_iff h).mp (List.mem_map_of_mem hd) with hs | ⟨row, -, hopens, hn⟩
    · rw [hs]
      decide
    · rw [← hn]
      exact Question.rowDataset_ne_empty hopens
  case all =>
    constructor
    · intro hall row hrow hopens
      have hname := (mem_map_name_datasets_iff h).mpr (Or.inr ⟨row, hrow, hopens, rfl⟩)
      obtain ⟨d, hd, heq⟩ := List.mem_map.mp hname
      rw [← Question.canStand_rowDataset_iff, ← heq]
      exact (hall d hd).1
    · intro hall d hd
      rw [hreference d hd, and_self]
      rcases (mem_map_name_datasets_iff h).mp (List.mem_map_of_mem hd) with hs | ⟨row, hrow, ho, hn⟩
      · rw [hs]
        exact canStand_surveyDataset
      · rw [← hn]
        exact Question.canStand_rowDataset_iff.mpr (hall row hrow ho)

theorem canStand_datasets_iff_nestedSurvey :
    parse nestedSurvey noChoices "nested" = .ok (nestedForm "nested") ∧
      ∀ d ∈ (nestedForm "nested").datasets, CanStand d.name ∧ CanStand d.reference := by
  have hparse := parse_nestedSurvey "nested"
  have hlabels : ∀ row ∈ nestedSurvey.rows,
      (words (Question.rowType row)).head? = some Question.beginRepeat →
        Question.rowWorkingLabel nestedSurvey.columns row ≠ "" ∧
          (Question.rowWorkingLabel nestedSurvey.columns row).toList.any fun c => !isBlank c := by
    decide +kernel
  obtain ⟨-, -, -, hall⟩ := canStand_datasets_iff hparse
  refine ⟨hparse, hall.mpr fun row hrow hopens => ?_⟩
  obtain ⟨hlabel, hshows⟩ := hlabels row hrow hopens.1
  obtain ⟨c, hc, hsolid⟩ := List.any_eq_true.mp hshows
  exact .byLabel hlabel ⟨c, hc, by simpa using hsolid⟩

/-- One repeat group, whose opening row has a name and a label. -/
def groupSurvey (name label : String) : Sheet :=
  ⟨"survey", ["type", "name", "label"],
    [surveyRow "begin repeat" name label, surveyRow "end repeat" "" ""]⟩

theorem exists_dataset_groupSurvey {opener label d : String}
    (hmarkers : Repeat.markersOf (ofRows (groupSurvey opener label).columns
      (groupSurvey opener label).rows) = [⟨.opening, 1⟩, ⟨.closing, 2⟩])
    (hopens : OpensGroup (surveyRow "begin repeat" opener label))
    (hd : rowDataset (groupSurvey opener label).columns (surveyRow "begin repeat" opener label) = d) :
    ∃ f, parse (groupSurvey opener label) noChoices "visits" = .ok f ∧
      d ∈ f.datasets.map (·.name) := by
  have hload : Choice.load noChoices = .ok [] := rfl
  have hf : parse (groupSurvey opener label) noChoices "visits" = .ok _ :=
    parse_of_markers_pair ⟨rfl, Question.legible_of_isTextual rfl⟩ hload hmarkers
  have hrow : surveyRow "begin repeat" opener label ∈ (groupSurvey opener label).rows :=
    List.mem_cons_self ..
  exact ⟨_, hf, (mem_map_name_datasets_iff hf).mpr (Or.inr ⟨_, hrow, hopens, hd⟩)⟩

/-- A label of one space names a dataset, and so does a name with a dollar sign. -/
theorem not_canStand_of_blank_label :
    (∃ f, parse (groupSurvey "visits" " ") noChoices "visits" = .ok f ∧
      " " ∈ f.datasets.map (·.name)) ∧
    (∃ f, parse (groupSurvey "vis$its" "") noChoices "visits" = .ok f ∧
      "vis$its" ∈ f.datasets.map (·.name)) ∧
    ¬ CanStand " " ∧ ¬ CanStand "vis$its" := by
  refine ⟨?label, ?name, ?blank, ?dollar⟩
  case label =>
    exact exists_dataset_groupSurvey (by decide +kernel) ⟨by decide +kernel, by decide +kernel⟩
      (by decide +kernel)
  case name =>
    exact exists_dataset_groupSurvey (by decide +kernel) ⟨by decide +kernel, by decide +kernel⟩
      (by decide +kernel)
  case blank =>
    intro h
    obtain ⟨c, hc, hsolid⟩ := h.shows
    have hblank : " ".toList.all isBlank := by decide
    exact Bool.false_ne_true (hsolid.symm.trans (List.all_eq_true.mp hblank c hc))
  case dollar =>
    intro h
    exact h.plain '$' (by decide) (by decide)

end Form

end SurveyChecks
