import SurveyChecks.Form.Question
import SurveyChecks.Proofs.Form.Sheets

/-!
# What loading questions does

`Question.load` as equations: which questions a survey sheet has, and why it cannot be read.
-/

namespace SurveyChecks.Question

variable {sheet : Sheet} {columns : List String} {row : Row} {qs : List Question}

/-- Every row is legible. -/
def Legible (sheet : Sheet) : Prop := ∀ row ∈ sheet.rows, isLegible sheet.columns row

/-- The columns that a survey sheet needs are there, and every row is legible. -/
def Loads (sheet : Sheet) : Prop := sheet.missing ["type", "name"] = [] ∧ Legible sheet

theorem isLegible_of_isTextual (columns : List String) (h : row.isTextual) :
    isLegible columns row := by
  simp [isLegible, Row.hasTexts_of_isTextual h]

/-- The rows of a sheet in which every cell has a text are legible. -/
theorem legible_of_isTextual (h : sheet.isTextual) : Legible sheet :=
  fun row hrow => isLegible_of_isTextual sheet.columns (List.all_eq_true.mp h row hrow)

/-- Rows behind those of a sheet can be loaded with them when they are legible. -/
theorem Loads.append {rows : List Row} (h : Loads sheet)
    (hrows : ∀ row ∈ rows, isLegible sheet.columns row) :
    Loads { sheet with rows := sheet.rows ++ rows } := by
  refine ⟨h.1, fun row hrow => ?_⟩
  rcases List.mem_append.mp hrow with hrow | hrow
  · exact h.2 row hrow
  · exact hrows row hrow

theorem load_of_missing (h : sheet.missing ["type", "name"] ≠ []) :
    load sheet = .error (.missingColumns sheet.name (sheet.missing ["type", "name"])) := by
  unfold load
  rw [Sheet.require_of_missing_ne_nil h]
  rfl

theorem load_of_not_legible (hcolumns : sheet.missing ["type", "name"] = [])
    (h : ¬ Legible sheet) : load sheet = .error .numeralTooLong := by
  have hall : ¬ sheet.rows.all (isLegible sheet.columns) := mt List.all_eq_true.mp h
  unfold load
  rw [Sheet.require_of_missing_eq_nil hcolumns, if_neg hall]
  rfl

theorem load_of_loads (h : Loads sheet) :
    load sheet = .ok (numbered (sheet.rows.filterMap (ofRow? sheet.columns))) := by
  have hall : sheet.rows.all (isLegible sheet.columns) := List.all_eq_true.mpr h.2
  unfold load
  rw [Sheet.require_of_missing_eq_nil h.1, if_pos hall]
  rfl

/-- Loading fails for want of columns, or at a row that is not legible. -/
theorem error_of_load {e : FormError} (h : load sheet = .error e) :
    e = .missingColumns sheet.name (sheet.missing ["type", "name"]) ∨ e = .numeralTooLong := by
  by_cases hcolumns : sheet.missing ["type", "name"] = []
  · by_cases hlegible : Legible sheet
    · simp [load_of_loads ⟨hcolumns, hlegible⟩] at h
    · exact Or.inr (Except.error.inj ((load_of_not_legible hcolumns hlegible).symm.trans h)).symm
  · exact Or.inl (Except.error.inj ((load_of_missing hcolumns).symm.trans h)).symm

/-- A survey sheet can be loaded just when its columns are there and its rows are legible; its
questions are then those of the rows that are kept, numbered from one. -/
theorem load_eq_ok_iff :
    load sheet = .ok qs ↔
      Loads sheet ∧ qs = numbered (sheet.rows.filterMap (ofRow? sheet.columns)) := by
  by_cases hcolumns : sheet.missing ["type", "name"] = []
  · by_cases hlegible : Legible sheet
    · have hloads : Loads sheet := ⟨hcolumns, hlegible⟩
      simp [load_of_loads hloads, hloads, eq_comm]
    · simp [load_of_not_legible hcolumns hlegible, Loads, hlegible]
  · simp [load_of_missing hcolumns, Loads, hcolumns]

end SurveyChecks.Question
