import SurveyChecks.Form.Choice
import SurveyChecks.Proofs.Form.Sheets

/-!
# What loading choices does

`Choice.load` as equations: which choices a sheet has, and why its rows cannot be read.
-/

namespace SurveyChecks.Choice

open SurveyChecks.Text

/-- The choice that a row turns out to be, if it is one. -/
def Reading.choice? : Reading → Option Choice
  | .choice c => some c
  | _ => none

theorem Reading.choice?_eq_some_iff {r : Reading} {c : Choice} :
    r.choice? = some c ↔ r = .choice c := by
  cases r <;> simp [choice?]

/-- Some row with content is named by a value code that has too many digits. -/
def HasLongCode (sheet : Sheet) : Prop :=
  ∃ row ∈ sheet.rows, row.hasContent ∧ isCode (rowName row) ∧ maxDigits < (rowName row).length

/-- The columns that a choices sheet needs are there, and no value code has too many digits. -/
def Loads (sheet : Sheet) : Prop :=
  sheet.missing (requiredColumns sheet.columns) = [] ∧ ¬ HasLongCode sheet

/-- The rows of a sheet that can be loaded have codes with at most that many digits. -/
theorem Loads.short {sheet : Sheet} (h : Loads sheet) :
    ∀ row ∈ sheet.rows.filter Row.hasContent, isCode (rowName row) →
      ¬ maxDigits < (rowName row).length := by
  intro row hrow hcode hlong
  obtain ⟨hin, hcontent⟩ := List.mem_filter.mp hrow
  exact h.2 ⟨row, hin, hcontent, hcode, hlong⟩

/-- The cells of a row that are looked at have texts: those up to the first that is filled, the name
and, when that is a value code, the list and the label. -/
def isLegible (column : String) (row : Row) : Bool :=
  row.isSearchable && row.hasTexts ["name"] &&
    (!isCode (rowName row) || row.hasTexts [column, "label"])

/-- Every row with content is legible. -/
def Legible (sheet : Sheet) : Prop :=
  ∀ row ∈ sheet.rows, row.hasContent → isLegible (listColumn sheet.columns) row

theorem Legible.of_mem_filter {sheet : Sheet} (h : Legible sheet) :
    ∀ row ∈ sheet.rows.filter Row.hasContent, isLegible (listColumn sheet.columns) row := by
  intro row hrow
  obtain ⟨hin, hcontent⟩ := List.mem_filter.mp hrow
  exact h row hin hcontent

/-- The rows of a sheet in which every cell has a text are legible. -/
theorem legible_of_isTextual {sheet : Sheet} (h : sheet.isTextual) : Legible sheet := by
  intro row hrow _
  have htextual := List.all_eq_true.mp h row hrow
  simp [isLegible, Row.isSearchable_of_isTextual htextual, Row.hasTexts_of_isTextual htextual]

/-- Why a row cannot be read, if it cannot. -/
def Reading.fault? : Reading → Option FormError
  | .tooLong => some .codeTooLong
  | .noText => some .numeralTooLong
  | _ => none

section Readings

variable {rs : List Reading}

/-- The first row that cannot be read decides the error. -/
theorem ofReadings_of_fault {e : FormError} (h : rs.findSome? Reading.fault? = some e) :
    ofReadings rs = .error e := by
  induction rs with
  | nil => simp at h
  | cons r rs ih =>
    rw [List.findSome?_cons] at h
    cases r with
    | tooLong | noText =>
      cases h
      rfl
    | choice c =>
      rw [ofReadings, ih h]
      rfl
    | notCoded number name => rw [ofReadings, ih h]

/-- Readings without a fault give the choices among them. -/
theorem ofReadings_of_no_fault (h : rs.findSome? Reading.fault? = none) :
    ofReadings rs = .ok (rs.filterMap Reading.choice?) := by
  induction rs with
  | nil => rfl
  | cons r rs ih =>
    rw [List.findSome?_cons] at h
    cases r with
    | tooLong | noText => cases h
    | choice c | notCoded number name =>
      rw [ofReadings, ih h]
      rfl

end Readings

section Rows

variable {column : String} {row : Row} {number : Nat}

/-- What a legible row shows, in the order in which its cells are looked at. -/
theorem isLegible_iff :
    isLegible column row ↔ (row.isSearchable ∧ row.hasTexts ["name"]) ∧
      (isCode (rowName row) → row.hasTexts [column] ∧ row.hasTexts ["label"]) := by
  simp only [isLegible, Row.hasTexts, List.all_cons, List.all_nil, Bool.and_true]
  cases isCode (rowName row) <;> simp

/-- A row whose name is no value code is noted and passed over. -/
theorem ofRow_of_not_isCode (hlegible : isLegible column row) (h : ¬ isCode (rowName row)) :
    ofRow column row number = .notCoded number (rowName row) := by
  obtain ⟨⟨hsearch, hname⟩, -⟩ := isLegible_iff.mp hlegible
  simp only [ofRow, hsearch, hname, h, Bool.and_self, Bool.not_true, Bool.not_false,
    Bool.false_eq_true, if_false, if_true]

/-- A value code with too many digits cannot be read. -/
theorem ofRow_of_long (hlegible : isLegible column row) (hcode : isCode (rowName row))
    (hlong : maxDigits < (rowName row).length) : ofRow column row number = .tooLong := by
  obtain ⟨⟨hsearch, hname⟩, hshown⟩ := isLegible_iff.mp hlegible
  simp only [ofRow, hsearch, hname, hcode, (hshown hcode).1, hlong, Bool.and_self, Bool.not_true,
    Bool.false_eq_true, if_false, if_true]

/-- Any other value code gives a choice. -/
theorem ofRow_of_short (hlegible : isLegible column row) (hcode : isCode (rowName row))
    (hshort : ¬ maxDigits < (rowName row).length) :
    ofRow column row number = .choice {
      list := without (· == ' ') (row.text column)
      code := decimalValue (rowName row).toList
      label := Label.safe false (row.text "label")
      order := number } := by
  obtain ⟨⟨hsearch, hname⟩, hshown⟩ := isLegible_iff.mp hlegible
  obtain ⟨hlist, hlabel⟩ := hshown hcode
  simp only [ofRow, hsearch, hname, hcode, hlist, hshort, hlabel, Bool.and_self, Bool.not_true,
    Bool.false_eq_true, if_false]

/-- Only a row that is named by a value code is a choice, and its cells say which. -/
theorem of_ofRow_eq_choice {c : Choice} (h : ofRow column row number = .choice c) :
    isCode (rowName row) ∧ c = {
      list := without (· == ' ') (row.text column)
      code := decimalValue (rowName row).toList
      label := Label.safe false (row.text "label")
      order := number } := by
  unfold ofRow at h
  grind

/-- A row can be read just when it is legible and its name is no value code with too many digits.
-/
theorem fault?_ofRow_eq_none_iff :
    (ofRow column row number).fault? = none ↔
      isLegible column row ∧ ¬ (isCode (rowName row) ∧ maxDigits < (rowName row).length) := by
  rw [isLegible_iff]
  unfold ofRow
  repeat' split
  all_goals grind [Reading.fault?]

end Rows

section Load

variable {sheet : Sheet} {cs : List Choice}

/-- Reading a row of a legible sheet fails just when its code is too long. -/
theorem fault?_of_mem_readings (hlegible : Legible sheet) {r : Reading} (hr : r ∈ readings sheet) :
    r.fault? = none ∨ r.fault? = some .codeTooLong := by
  obtain ⟨⟨row, number⟩, hmem, rfl⟩ := List.mem_map.mp hr
  have hrow := hlegible.of_mem_filter row (List.fst_mem_of_mem_zipIdx hmem)
  by_cases hlong : isCode (rowName row) ∧ maxDigits < (rowName row).length
  · exact Or.inr (congrArg Reading.fault? (ofRow_of_long hrow hlong.1 hlong.2))
  · exact Or.inl (fault?_ofRow_eq_none_iff.mpr ⟨hrow, hlong⟩)

/-- All rows can be read just when those with content are legible and no value code has too many
digits. -/
theorem findSome?_readings_eq_none_iff :
    (readings sheet).findSome? Reading.fault? = none ↔ Legible sheet ∧ ¬ HasLongCode sheet := by
  have hrow {row : Row} {number : Nat} :
      (row, number) ∈ (sheet.rows.filter Row.hasContent).zipIdx 1 →
        row ∈ sheet.rows ∧ row.hasContent :=
    fun hmem => List.mem_filter.mp (List.fst_mem_of_mem_zipIdx hmem)
  simp only [List.findSome?_eq_none_iff, readings, List.forall_mem_map, Prod.forall,
    fault?_ofRow_eq_none_iff]
  constructor
  · intro h
    have hall : ∀ row ∈ sheet.rows, row.hasContent → isLegible (listColumn sheet.columns) row ∧
        ¬ (isCode (rowName row) ∧ maxDigits < (rowName row).length) := by
      intro row hin hcontent
      obtain ⟨i, hi, rfl⟩ := List.getElem_of_mem (List.mem_filter.mpr ⟨hin, hcontent⟩)
      exact h _ (1 + i) (List.mk_add_mem_zipIdx_iff_getElem?.mpr (List.getElem?_eq_getElem hi))
    refine ⟨fun row hin hcontent => (hall row hin hcontent).1, ?_⟩
    rintro ⟨row, hin, hcontent, hlong⟩
    exact (hall row hin hcontent).2 hlong
  · rintro ⟨hlegible, hshort⟩ row number hmem
    obtain ⟨hin, hcontent⟩ := hrow hmem
    exact ⟨hlegible row hin hcontent, fun hlong => hshort ⟨row, hin, hcontent, hlong⟩⟩

theorem load_of_missing (h : sheet.missing (requiredColumns sheet.columns) ≠ []) :
    load sheet = .error (.missingColumns sheet.name
      (sheet.missing (requiredColumns sheet.columns))) := by
  unfold load
  rw [Sheet.require_of_missing_ne_nil h]
  rfl

/-- With the columns it needs, a sheet is as good as its rows. -/
theorem load_of_columns (h : sheet.missing (requiredColumns sheet.columns) = []) :
    load sheet = ofReadings (readings sheet) := by
  unfold load
  rw [Sheet.require_of_missing_eq_nil h]
  rfl

/-- In a legible sheet a code that is too long is the only thing that can go wrong in the rows, so
it does not matter in which row it stands. -/
theorem load_of_hasLongCode (h : sheet.missing (requiredColumns sheet.columns) = [])
    (hlegible : Legible sheet) (hlong : HasLongCode sheet) :
    load sheet = .error .codeTooLong := by
  rw [load_of_columns h]
  cases hfault : (readings sheet).findSome? Reading.fault? with
  | none => exact absurd hlong (findSome?_readings_eq_none_iff.mp hfault).2
  | some e =>
    obtain ⟨r, hr, hre⟩ := List.exists_of_findSome?_eq_some hfault
    obtain hnone | hcode := fault?_of_mem_readings hlegible hr
    · simp [hnone] at hre
    · obtain rfl : FormError.codeTooLong = e := by simpa [hcode] using hre
      exact ofReadings_of_fault hfault

/-- A legible sheet without such a code has its choices. -/
theorem load_of_loads (h : Loads sheet) (hlegible : Legible sheet) :
    load sheet = .ok ((readings sheet).filterMap Reading.choice?) := by
  rw [load_of_columns h.1]
  exact ofReadings_of_no_fault (findSome?_readings_eq_none_iff.mpr ⟨hlegible, h.2⟩)

/-- Loading fails for want of columns, or at a row that cannot be read. -/
theorem error_of_load {e : FormError} (h : load sheet = .error e) :
    e = .missingColumns sheet.name (sheet.missing (requiredColumns sheet.columns)) ∨
      e = .codeTooLong ∨ e = .numeralTooLong := by
  by_cases hcolumns : sheet.missing (requiredColumns sheet.columns) = []
  · rw [load_of_columns hcolumns] at h
    cases hfault : (readings sheet).findSome? Reading.fault? with
    | none => simp [ofReadings_of_no_fault hfault] at h
    | some e' =>
      obtain rfl : e' = e := Except.error.inj ((ofReadings_of_fault hfault).symm.trans h)
      obtain ⟨r, -, hr⟩ := List.exists_of_findSome?_eq_some hfault
      cases r <;> simp_all [Reading.fault?]
  · exact Or.inl (Except.error.inj ((load_of_missing hcolumns).symm.trans h)).symm

/-- A choices sheet can be loaded just when its columns are there, no value code has too many digits
and the rows with content are legible; its choices are then those among the readings of its rows. -/
theorem load_eq_ok_iff :
    load sheet = .ok cs ↔
      (Loads sheet ∧ Legible sheet) ∧ cs = (readings sheet).filterMap Reading.choice? := by
  constructor
  · intro h
    have hcolumns : sheet.missing (requiredColumns sheet.columns) = [] :=
      Decidable.byContradiction fun hmiss => by simp [load_of_missing hmiss] at h
    rw [load_of_columns hcolumns] at h
    cases hfault : (readings sheet).findSome? Reading.fault? with
    | some e => simp [ofReadings_of_fault hfault] at h
    | none =>
      obtain ⟨hlegible, hshort⟩ := findSome?_readings_eq_none_iff.mp hfault
      rw [ofReadings_of_no_fault hfault, Except.ok.injEq] at h
      exact ⟨⟨⟨hcolumns, hshort⟩, hlegible⟩, h.symm⟩
  · rintro ⟨⟨hloads, hlegible⟩, rfl⟩
    exact load_of_loads hloads hlegible

end Load

end SurveyChecks.Choice
