import SurveyChecks.Form.Sheet

/-!
# What sheets offer to their readers

The columns that a reader of a sheet requires, and the texts of its cells. A cell has a text unless
the numeral of an integer in it is too long. A row all of whose cells have texts can always be read.
-/

namespace SurveyChecks

open SurveyChecks.Text

namespace Data

variable {d e : Data}

theorem cellText_of_hasText (h : d.hasText) : d.cellText = d.cellSpelling := by
  simp [cellText, cellText?, h]

theorem cellText?_of_hasText (h : d.hasText) : d.cellText? = some d.cellText := by
  simp [cellText, cellText?, h]

theorem isSome_cellText? : d.cellText?.isSome = d.hasText := by
  by_cases h : d.hasText
  · simp [cellText?, h]
  · simp [cellText?, h]

end Data

namespace Row

variable {row : Row} {c : Data}

theorem isFilled_of_hasText (h : c.hasText) : isFilled c = (strip c.cellText != "") := by
  simp [isFilled, h]

/-- A cell that shows something is filled, and so is one without a text. -/
theorem isFilled_of_strip_ne (h : strip c.cellText ≠ "") : isFilled c := by
  simp [isFilled, h]

/-- Whether a cell counts as content depends on its text, if it has one. -/
theorem isFilled_eq (c : Data) :
    isFilled c = c.cellText?.elim true fun t => strip t != "" := by
  by_cases h : c.hasText
  · rw [isFilled_of_hasText h, Data.cellText?_of_hasText h, Option.elim_some]
  · simp [isFilled, Data.cellText?, h]

/-- Whether every cell of a row has a text. -/
def isTextual (row : Row) : Bool := row.all fun (_, cell) => cell.hasText

/-- In a row in which every cell has a text, so has the empty cell of a column that is not there. -/
theorem hasText_cell (h : row.isTextual) (column : String) : (row.cell column).hasText := by
  unfold Row.cell OrderedMap.get?
  cases hfind : row.find? (·.1 == column) with
  | none => rfl
  | some e => exact List.all_eq_true.mp h e (List.mem_of_find?_eq_some hfind)

theorem hasTexts_of_isTextual (h : row.isTextual) (columns : List String) : row.hasTexts columns :=
  List.all_eq_true.mpr fun column _ => hasText_cell h column

/-- Where every cell has a text, so has the first that is filled. -/
theorem isSearchable_of_isTextual (h : row.isTextual) : row.isSearchable := by
  unfold Row.isSearchable
  cases hfind : row.find? fun (_, cell) => isFilled cell with
  | none => rfl
  | some e => exact List.all_eq_true.mp h e (List.mem_of_find?_eq_some hfind)

end Row

namespace Sheet

variable {s : Sheet} {required : List String}

/-- Whether every cell of a sheet has a text. -/
def isTextual (s : Sheet) : Bool := s.rows.all Row.isTextual

theorem require_of_missing_eq_nil (h : s.missing required = []) : s.require required = .ok () := by
  unfold require
  rw [h]

/-- All columns that are missing are named together. -/
theorem require_of_missing_ne_nil (h : s.missing required ≠ []) :
    s.require required = .error (.missingColumns s.name (s.missing required)) := by
  unfold require
  split
  · contradiction
  · rfl

end Sheet

end SurveyChecks
