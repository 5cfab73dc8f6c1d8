import SurveyChecks.Proofs.Form.Names

/-!
# Reading questions again

A question can be written as a row of a survey sheet: its type, its name, its two labels and its
calculation, each in its own column. What reading does to the text of a cell changes nothing when it
is done again, and a row that is kept is kept again. So from the sheet of the questions of another
sheet the same questions are read, when no dot in the names of the other stands beside a blank.
-/

namespace SurveyChecks

open SurveyChecks.Text

namespace Question

/-! ## Types -/

section Joining

variable {p : String × String} {s : String} {rest : List Char}

theorem joinStructure_of_not_spaced
    (h : ∀ p ∈ structureWords, ∀ rest, ¬ Spaced p.1 p.2 s.toList rest) : joinStructure s = s := by
  rcases joinStructure_cases s with ⟨hsame, -⟩ | ⟨p, hp, rest, hspaced, -⟩
  · exact hsame
  · exact absurd hspaced (h p hp rest)

/-- Behind a joined word no second word of a spelling stands. -/
theorem not_spaced_of_joined {p' : String × String} (hp : p ∈ structureWords)
    (hp' : p' ∈ structureWords) {tail rest : List Char} :
    ¬ Spaced p'.1 p'.2 (p.1.toList ++ '_' :: tail) rest := by
  rintro ⟨gap, hne, hgap, heq, -⟩
  obtain ⟨c, gap, rfl⟩ := List.exists_cons_of_ne_nil hne
  have hc : isBlank c := hgap c (List.mem_cons_self ..)
  have hjoined : IsSolid (p.1.toList ++ ['_']) := by
    intro d hd
    rcases List.mem_append.mp hd with hd | hd
    · exact (isWord_of_mem_structureWords hp).1.solid d hd
    · rw [List.mem_singleton.mp hd]
      decide
  -- the joined word and the other word with a blank behind it both stand at the start of the text
  have hstart : p.1.toList ++ ['_'] <+: p.1.toList ++ '_' :: tail := ⟨tail, by simp⟩
  have hstart' : p'.1.toList ++ [c] <+: p.1.toList ++ '_' :: tail := by
    rw [heq]
    exact ⟨gap ++ (p'.2.toList ++ rest), by simp⟩
  rcases List.prefix_or_prefix_of_prefix hstart hstart' with hshorter | hlonger
  · have hmem : '_' ∈ p'.1.toList ++ [c] := hshorter.subset (by simp)
    have hnot : ∀ p ∈ structureWords, '_' ∉ p.1.toList := by decide
    rcases List.mem_append.mp hmem with hmem | hmem
    · exact hnot p' hp' hmem
    · rw [← List.mem_singleton.mp hmem] at hc
      exact absurd hc (by decide)
  · have hsolid : isBlank c = false := hjoined c (hlonger.subset (by simp))
    rw [hc] at hsolid
    contradiction

@[simp] theorem joinStructure_joinStructure (s : String) :
    joinStructure (joinStructure s) = joinStructure s := by
  rcases joinStructure_cases s with ⟨hsame, -⟩ | ⟨p, hp, rest, -, hjoined⟩
  · rw [hsame, hsame]
  · refine joinStructure_of_not_spaced fun p' hp' rest' => ?_
    rw [hjoined]
    exact not_spaced_of_joined hp hp'

theorem isTrimmed_joinStructure (h : IsTrimmed s.toList) : IsTrimmed (joinStructure s).toList := by
  rcases joinStructure_cases s with ⟨hsame, -⟩ | ⟨p, hp, rest, ⟨gap, -, -, heq, -⟩, hjoined⟩
  · rwa [hsame]
  · obtain ⟨ha, hb⟩ := isWord_of_mem_structureWords hp
    have hend : p.2.toList ++ rest ≠ [] := List.append_ne_nil_of_left_ne_nil hb.ne_nil rest
    rw [heq] at h
    rw [hjoined]
    constructor
    · intro c hc
      rw [List.head?_append_of_ne_nil _ ha.ne_nil] at hc
      exact ha.solid c (List.mem_of_mem_head? hc)
    · intro c hc
      refine h.last c ?_
      rw [← List.append_assoc, List.getLast?_append_of_ne_nil _ hend]
      rwa [← List.singleton_append, ← List.append_assoc,
        List.getLast?_append_of_ne_nil _ hend] at hc

theorem isTrimmed_rowType (row : Row) : IsTrimmed (rowType row).toList :=
  isTrimmed_joinStructure (isTrimmed_strip _)

end Joining

/-! ## Cells that were read -/

section Cells

variable {columns : List String} {row : Row}

@[simp] theorem joinStructure_strip_rowType (row : Row) :
    joinStructure (strip (rowType row)) = rowType row := by
  rw [strip_eq_self_iff.mpr (isTrimmed_rowType row)]
  exact joinStructure_joinStructure _

theorem lower_without_strip_rowName (h : DotsApart (row.text "name").toList) :
    lower (without (· == '.') (strip (rowName row))) = rowName row := by
  have hdots : ∀ c ∈ (rowName row).toList, (c == '.') = false := by
    intro c hc
    refine beq_eq_false_iff_ne.mpr ?_
    rintro rfl
    exact not_mem_rowName row hc
  rw [strip_eq_self_iff.mpr (isTrimmed_rowName h), without_eq_self_iff.mpr hdots]
  exact lower_lower _

@[simp] theorem safe_rowLabel (column : Option String) (row : Row) :
    Label.safe true (rowLabel column row) = rowLabel column row :=
  Label.safe_eq_self_iff.mpr (isSafe_rowLabel column row)

@[simp] theorem safe_rowWorkingLabel (columns : List String) (row : Row) :
    Label.safe true (rowWorkingLabel columns row) = rowWorkingLabel columns row :=
  Label.safe_eq_self_iff.mpr (isSafe_rowWorkingLabel columns row)

/-- The label that scripts use is empty only when the one in the default language is. -/
theorem rowLabel_eq_empty (h : rowWorkingLabel columns row = "") :
    rowLabel (labelColumn? columns) row = "" := by
  unfold rowWorkingLabel at h
  by_cases hscript : rowScriptLabel columns row = ""
  · rwa [if_pos hscript] at h
  · rw [if_neg hscript] at h
    exact absurd h hscript

end Cells

/-! ## Rows of questions -/

variable {sheet : Sheet} {columns : List String} {row : Row} {q : Question} {qs : List Question}

/-- The columns of a question that is written as a row. -/
def ownColumns : List String := ["type", "name", "label", workingLabelColumn, "calculation"]

/-- The row of a question. -/
def toRow (q : Question) : Row :=
  [("type", .text q.rawType), ("name", .text q.name), ("label", .text q.label),
    (workingLabelColumn, .text q.workingLabel), ("calculation", .text (q.calculation.getD ""))]

/-- The sheet of questions. -/
def toSheet (name : String) (qs : List Question) : Sheet := ⟨name, ownColumns, qs.map toRow⟩

theorem rowType_toRow (q : Question) : rowType q.toRow = joinStructure (strip q.rawType) := rfl

theorem rowName_toRow (q : Question) :
    rowName q.toRow = lower (without (· == '.') (strip q.name)) := rfl

theorem rowLabel_toRow (q : Question) :
    rowLabel (labelColumn? ownColumns) q.toRow = Label.safe true q.label := rfl

theorem rowWorkingLabel_toRow (q : Question) :
    rowWorkingLabel ownColumns q.toRow =
      if Label.safe true q.workingLabel = "" then Label.safe true q.label
      else Label.safe true q.workingLabel := by
  have hscript : rowScriptLabel ownColumns q.toRow = Label.safe true q.workingLabel :=
    if_pos (by decide)
  rw [rowWorkingLabel, hscript, rowLabel_toRow]

theorem calculation_toRow (q : Question) :
    q.toRow.text "calculation" = q.calculation.getD "" := rfl

/-- The row of a question that was read is read as the same question. -/
theorem ofRow?_toRow (h : ofRow? columns row = some q)
    (hdots : DotsApart (row.text "name").toList) : ofRow? ownColumns q.toRow = some q := by
  obtain ⟨hkeep, hq⟩ := ofRow?_eq_some_iff.mp h
  have htype : rowType q.toRow = rowType row := by
    rw [rowType_toRow, hq, joinStructure_strip_rowType]
  have hname : rowName q.toRow = rowName row := by
    rw [rowName_toRow, hq, lower_without_strip_rowName hdots]
  have hlabel : rowLabel (labelColumn? ownColumns) q.toRow = rowLabel (labelColumn? columns) row := by
    rw [rowLabel_toRow, hq, safe_rowLabel]
  have hworking : rowWorkingLabel ownColumns q.toRow = rowWorkingLabel columns row := by
    rw [rowWorkingLabel_toRow, hq, safe_rowWorkingLabel, safe_rowLabel]
    by_cases hempty : rowWorkingLabel columns row = ""
    · rw [if_pos hempty, rowLabel_eq_empty hempty, hempty]
    · rw [if_neg hempty]
  have hcalculation : strip (q.toRow.text "calculation") = strip (row.text "calculation") := by
    rw [calculation_toRow, hq, Option.getD_some, strip_strip]
  rw [ofRow?_eq_some_iff, htype, hname, hlabel, hworking, hcalculation]
  exact ⟨hkeep, hq⟩

/-- The row of a question does not show its place. -/
theorem map_toRow_numbered (qs : List Question) : (numbered qs).map toRow = qs.map toRow := by
  have hplace : ∀ p : Question × Nat, toRow { p.1 with order := (p.2 : Int) } = toRow p.1 :=
    fun _ => rfl
  rw [numbered, List.map_map, ← List.zipIdx_map_fst 1 qs, List.map_map, List.zipIdx_map_fst]
  exact List.map_congr_left fun p _ => hplace p

/-- The rows of questions that were read are read as the same questions. -/
theorem filterMap_ofRow?_toRow {rows : List Row}
    (hdots : ∀ row ∈ rows, DotsApart (row.text "name").toList) :
    ((rows.filterMap (ofRow? columns)).map toRow).filterMap (ofRow? ownColumns) =
      rows.filterMap (ofRow? columns) := by
  have hagain : ∀ q ∈ rows.filterMap (ofRow? columns),
      (ofRow? ownColumns ∘ toRow) q = some q := by
    intro q hq
    obtain ⟨row, hrow, hq⟩ := List.mem_filterMap.mp hq
    rw [Function.comp_apply]
    exact ofRow?_toRow hq (hdots row hrow)
  rw [List.filterMap_map, List.filterMap_congr hagain, List.filterMap_some]

theorem missing_toSheet (name : String) (qs : List Question) :
    (toSheet name qs).missing ["type", "name"] = [] := by
  have hnone : ["type", "name"].filter (fun c => !ownColumns.contains c) = [] := by decide
  exact hnone

theorem loads_toSheet (name : String) (qs : List Question) : Loads (toSheet name qs) := by
  refine ⟨missing_toSheet name qs, fun row hrow => ?_⟩
  obtain ⟨q, -, rfl⟩ := List.mem_map.mp hrow
  exact isLegible_of_isTextual _ rfl

/-- Questions are read from a sheet with types and names whose cells have texts where they are looked
at. When no dot in its names stands beside a blank, the same questions are read from their own sheet;
they are numbered from one. -/
theorem load_toSheet (hdots : ∀ row ∈ sheet.rows, DotsApart (row.text "name").toList) :
    ((∃ qs, load sheet = .ok qs) ↔ Loads sheet) ∧
      ∀ qs, load sheet = .ok qs → (∀ name, load (toSheet name qs) = .ok qs) ∧
        qs.map (·.order) = (List.range' 1 qs.length).map (fun k : Nat => (k : Int)) := by
  refine ⟨⟨?loads, fun h => ⟨_, load_of_loads h⟩⟩, fun qs hqs => ⟨fun name => ?same, ?places⟩⟩
  case loads =>
    rintro ⟨qs, hqs⟩
    exact (load_eq_ok_iff.mp hqs).1
  case same =>
    obtain ⟨-, rfl⟩ := load_eq_ok_iff.mp hqs
    rw [load_of_loads (loads_toSheet ..), toSheet, map_toRow_numbered, filterMap_ofRow?_toRow hdots]
  case places =>
    obtain ⟨-, rfl⟩ := load_eq_ok_iff.mp hqs
    rw [map_order_numbered, numbered, List.length_map, List.length_zipIdx]

/-- A survey with loose spelling: blanks around cells, a type in two words, a label with characters
that scripts use, a row without a name, and a repeat group closed by such a row. -/
def looseSurvey : Sheet :=
  ⟨"survey", ["type", "name", "label:English", "labelStata", "calculation"],
    [[("type", .text " begin  repeat "), ("name", .text "Visits"), ("labelStata", .text "")],
     [("type", .text "note"), ("label:English", .text "dropped")],
     [("type", .text "calculate"), ("name", .text " Total.COST\n"),
      ("label:English", .text "Cost in \"$\"\r\n"), ("calculation", .text " sum(1) ")],
     [("type", .text "end\trepeat")]]⟩

/-- Its questions. -/
def looseQuestions : List Question :=
  [{ name := "visits", rawType := "begin_repeat", tokens := ["begin_repeat"], order := 1 },
   { name := "totalcost", rawType := "calculate", tokens := ["calculate"], label := "Cost in #",
     workingLabel := "Cost in #", calculation := some "sum(1)", order := 2 },
   { name := "", rawType := "end_repeat", tokens := ["end_repeat"], order := 3 }]

theorem load_toSheet_looseSurvey :
    (∀ row ∈ looseSurvey.rows, DotsApart (row.text "name").toList) ∧ Loads looseSurvey ∧
    load looseSurvey = .ok looseQuestions ∧
    load (toSheet "survey" looseQuestions) = .ok looseQuestions := by
  have hdots : ∀ row ∈ looseSurvey.rows, DotsApart (row.text "name").toList := by decide
  have hload : load looseSurvey = .ok looseQuestions := by decide +kernel
  obtain ⟨hloads, hsame⟩ := load_toSheet hdots
  exact ⟨hdots, hloads.mp ⟨_, hload⟩, hload, (hsame _ hload).1 "survey"⟩

end Question

end SurveyChecks
