import SurveyChecks.Proofs.Binary64
import SurveyChecks.Proofs.Form.ChoiceLists
import SurveyChecks.Proofs.Text.Numerals

/-!
# Codes of choices

A row of a choices sheet is an option when its name, on one line and trimmed, is a numeral; its code
is the number of the numeral. So a cell gives a code just when it spells a natural number: as an
integer, as a floating-point number of that value, or as a text with zeros in front, blanks around
and line breaks anywhere.
-/

namespace SurveyChecks

open SurveyChecks.Text

/-! ## Spellings of natural numbers -/

section Spellings

variable {cs : List Char} {c : Char} {t : String} {m n : Nat}

/-- The digits of a number with zeros in front and blanks around. -/
def IsSpelling (n : Nat) (cs : List Char) : Prop :=
  ∃ bs k bs', (∀ c ∈ bs, isBlank c) ∧ (∀ c ∈ bs', isBlank c) ∧
    cs = bs ++ (List.replicate k '0' ++ Nat.toDigits 10 n ++ bs')

/-- A text spells a number just when trimming leaves a numeral of the number. -/
theorem isSpelling_iff :
    IsSpelling n cs ↔ IsNumeral (stripChars cs) ∧ decimalValue (stripChars cs) = n := by
  rw [isNumeral_iff]
  constructor
  · rintro ⟨bs, k, bs', hbs, hbs', rfl⟩
    exact ⟨k, stripChars_append hbs hbs' (isNumeral_zeros_append k n).isTrimmed⟩
  · rintro ⟨k, hk⟩
    obtain ⟨bs, bs', hbs, hbs', heq⟩ := exists_eq_append_stripChars cs
    exact ⟨bs, k, bs', hbs, hbs', by rw [← hk, ← heq]⟩

/-- A text with a character that is neither blank nor a digit spells no number. -/
theorem not_isSpelling_of_mem (hc : c ∈ cs) (hblank : isBlank c = false)
    (hdigit : isDigit c = false) : ¬ IsSpelling n cs := by
  intro h
  have hmem := (isSpelling_iff.mp h).1.digits c (mem_stripChars_of_not_blank hc hblank)
  rw [hdigit] at hmem
  contradiction

theorem isSpelling_toDigits_iff : IsSpelling n (Nat.toDigits 10 m) ↔ m = n := by
  have hnumeral : IsNumeral (Nat.toDigits 10 m) := isNumeral_zeros_append 0 m
  have hvalue : decimalValue (Nat.toDigits 10 m) = m := decimalValue_zeros_append 0 m
  rw [isSpelling_iff, stripChars_eq_self_iff.mpr hnumeral.isTrimmed, hvalue]
  exact and_iff_right hnumeral

/-! ## Texts on one line -/

/-- Line breaks are blank. -/
theorem not_isLineBreak (hblank : isBlank c = false) : Label.isLineBreak c = false := by
  refine Bool.eq_false_iff.mpr fun hbreak => ?_
  rw [Label.isLineBreak, Bool.or_eq_true, beq_iff_eq, beq_iff_eq] at hbreak
  rcases hbreak with rfl | rfl <;> exact absurd hblank (by decide)

theorem mem_withoutLineBreaks (hc : c ∈ t.toList) (hblank : isBlank c = false) :
    c ∈ (Label.withoutLineBreaks t).toList := by
  rw [Label.withoutLineBreaks, without, String.toList_ofList, List.mem_filter,
    not_isLineBreak hblank]
  exact ⟨hc, rfl⟩

/-- A text on one line and otherwise as it is spells a number. -/
def Reads (n : Nat) (t : String) : Prop := IsSpelling n (Label.withoutLineBreaks t).toList

theorem not_reads_of_mem (hc : c ∈ t.toList) (hblank : isBlank c = false)
    (hdigit : isDigit c = false) : ¬ Reads n t :=
  not_isSpelling_of_mem (mem_withoutLineBreaks hc hblank) hblank hdigit

theorem not_reads_empty : ¬ Reads n "" := fun h => (isSpelling_iff.mp h).1.ne_nil rfl

/-- An integer reads as a number just when it is that number. -/
theorem reads_toString_iff (i : Int) : Reads n (toString i) ↔ i = n := by
  rw [Int.toString_eq_repr, Int.repr_eq_if]
  by_cases hi : 0 ≤ i
  · obtain ⟨m, rfl⟩ := Int.eq_ofNat_of_zero_le hi
    have hline : ∀ c ∈ m.repr.toList, Label.isLineBreak c = false := by
      intro c hc
      rw [Nat.toList_repr] at hc
      exact not_isLineBreak (not_isBlank_of_isDigit (isDigit_of_mem_toDigits hc))
    rw [if_pos hi, Int.toNat_natCast, Reads, Label.withoutLineBreaks,
      without_eq_self_iff.mpr hline, Nat.toList_repr, isSpelling_toDigits_iff]
    exact Int.natCast_inj.symm
  · rw [if_neg hi]
    refine iff_of_false (not_reads_of_mem (c := '-') ?_ (by decide) (by decide)) (by omega)
    rw [String.toList_append]
    exact List.mem_append_left _ (by decide)

end Spellings

/-! ## Cells -/

namespace Scalar

variable {n : Nat} {s : Scalar}

/-- A cell spells a natural number: it is the integer, it is a floating-point number of that value,
or it is a text that spells the number when its line breaks are left out. -/
inductive Spells : Scalar → Nat → Prop
  /-- The integer. -/
  | int (n : Nat) : Spells (.int n) n
  /-- A floating-point number of that value. -/
  | real {x : Binary64} {n : Nat} (h : x.value? = some (n : ℚ)) : Spells (.real x) n
  /-- A text with zeros in front, blanks around and line breaks anywhere. -/
  | text {t : String} {n : Nat} (h : IsSpelling n (Label.withoutLineBreaks t).toList) :
    Spells (.text t) n

theorem spells_int_iff {i : Int} : (Scalar.int i).Spells n ↔ i = n := by
  constructor
  · rintro ⟨⟩
    rfl
  · rintro rfl
    exact .int n

theorem spells_real_iff {x : Binary64} : (Scalar.real x).Spells n ↔ x.toInt? = some (n : Int) := by
  rw [Binary64.toInt?_eq_some_iff, Int.cast_natCast]
  constructor
  · rintro ⟨⟩
    assumption
  · exact .real

theorem reads_real_iff {x : Binary64} :
    Reads n (Scalar.real x).cellSpelling ↔ x.toInt? = some (n : Int) := by
  cases hx : x.toInt? with
  | some i =>
    have htext : (Scalar.real x).cellSpelling = toString i := by simp [cellSpelling, hx]
    rw [htext, reads_toString_iff, Option.some.injEq]
  | none =>
    have htext : (Scalar.real x).cellSpelling = x.text .shown := by simp [cellSpelling, hx]
    obtain ⟨c, hc, hmark⟩ := x.exists_mark_mem_text
    rw [← htext] at hc
    simp only [Binary64.isNumberMark, Bool.or_eq_true, beq_iff_eq] at hmark
    refine iff_of_false ?_ (by simp)
    rcases hmark with (rfl | rfl) | rfl <;> exact not_reads_of_mem hc (by decide) (by decide)

/-- Which number a cell spells is what its spelling on one line reads as. -/
theorem spells_iff : s.Spells n ↔ Reads n s.cellSpelling := by
  have hother : ∀ {s : Scalar} {c : Char}, (∀ n, ¬ s.Spells n) → c ∈ s.cellSpelling.toList →
      isBlank c = false → isDigit c = false → (s.Spells n ↔ Reads n s.cellSpelling) :=
    fun hnone hc hblank hdigit => iff_of_false (hnone n) (not_reads_of_mem hc hblank hdigit)
  cases s with
  | int i => exact spells_int_iff.trans (reads_toString_iff i).symm
  | real x => exact spells_real_iff.trans reads_real_iff.symm
  | text t =>
    constructor
    · rintro ⟨⟩
      assumption
    · exact .text
  | null =>
    refine iff_of_false ?_ not_reads_empty
    rintro ⟨⟩
  | bool b =>
    refine hother (c := 'e') (by rintro _ ⟨⟩) ?_ (by decide) (by decide)
    cases b <;> decide
  | date d =>
    refine hother (c := '-') (by rintro _ ⟨⟩) ?_ (by decide) (by decide)
    simp [cellSpelling, interpolated, Date.isoText]
  | time t =>
    refine hother (c := ':') (by rintro _ ⟨⟩) ?_ (by decide) (by decide)
    simp [cellSpelling, interpolated, TimeOfDay.isoText]
  | moment m =>
    refine hother (c := 'T') (by rintro _ ⟨⟩) ?_ (by decide) (by decide)
    simp [cellSpelling, Moment.isoText]
  | bytes bs =>
    refine hother (c := 'b') (by rintro _ ⟨⟩) ?_ (by decide) (by decide)
    simp [cellSpelling, interpolated, bytesText]

end Scalar

namespace Choice

variable {sheet : Sheet} {column : String} {row : Row} {rows : List Row} {s : Scalar} {n : Nat}

/-! ## Rows that are options -/

/-- A row has a cell that is not blank, and its name is a numeral. -/
def isCoded (row : Row) : Bool := row.hasContent && isCode (codeText row)

/-- The number that the digits of a name denote. -/
def codeNumber (row : Row) : Nat := Nat.ofDigitChars 10 (codeText row).toList 0

/-- The choice of a row at a place of a sheet. -/
def choiceAt (sheet : Sheet) (p : Row × Nat) : Choice where
  list := without (· == ' ') (p.1.text (listColumn sheet.columns))
  code := codeNumber p.1
  label := Label.safe false (p.1.text "label")
  order := ((sheet.rows.take (p.2 + 1)).countP Row.hasContent : Nat)

/-- The choices of the rows of a sheet that are options, in order. -/
def codedChoices (sheet : Sheet) : List Choice :=
  (sheet.rows.zipIdx.filter fun p => isCoded p.1).map (choiceAt sheet)

theorem isCoded_iff : isCoded row ↔ isCode (codeText row) := by
  rw [isCoded, Bool.and_eq_true]
  exact and_iff_right_of_imp hasContent_of_isCode

theorem isCode_iff_isNumeral {t : String} : isCode t ↔ IsNumeral t.toList := by
  rw [isCode_iff]
  constructor
  · rintro ⟨hne, hdigits⟩
    exact ⟨fun hnil => hne (String.toList_eq_nil_iff.mp hnil), hdigits⟩
  · intro h
    exact ⟨fun hempty => h.ne_nil (String.toList_eq_nil_iff.mpr hempty), h.digits⟩

theorem toList_codeText (row : Row) :
    (codeText row).toList = stripChars (Label.withoutLineBreaks (row.text "name")).toList := by
  rw [codeText, strip, String.toList_ofList]

/-- A row is an option with a code just when the text of its name spells the code. -/
theorem isCoded_and_iff_reads : isCoded row ∧ codeNumber row = n ↔ Reads n (row.text "name") := by
  rw [isCoded_iff, isCode_iff_isNumeral, codeNumber, toList_codeText, Reads, isSpelling_iff]
  rfl

theorem isCoded_and_iff_spells (h : OrderedMap.get? row "name" = some (.scalar s))
    (hs : s.hasText) : isCoded row ∧ codeNumber row = n ↔ s.Spells n := by
  have htext : row.text "name" = s.cellSpelling := by
    rw [Row.text, Row.cell, h]
    exact Data.cellText_of_hasText hs
  rw [isCoded_and_iff_reads, htext, s.spells_iff]

/-! ## Loading -/

theorem loads_of_short (hcolumns : sheet.missing (requiredColumns sheet.columns) = [])
    (hshort : ∀ row ∈ sheet.rows, isCode (codeText row) → (codeText row).length ≤ maxDigits) :
    Loads sheet := by
  refine ⟨hcolumns, ?_⟩
  rintro ⟨row, hrow, -, hcode, hlong⟩
  have hcode := isCode_rowName_iff.mp hcode
  rw [rowName_of_isCode hcode] at hlong
  exact absurd (hshort row hrow hcode) (Nat.not_le.mpr hlong)

/-- The row at a place turns out to be a choice just when it is an option. -/
theorem choice?_ofRow {i : Nat} (hlegible : isLegible (listColumn sheet.columns) row)
    (hshort : isCode (codeText row) → (codeText row).length ≤ maxDigits)
    (hplace : (sheet.rows.take (i + 1)).countP Row.hasContent = n) :
    (ofRow (listColumn sheet.columns) row n).choice? =
      if isCoded row then some (choiceAt sheet (row, i)) else none := by
  by_cases hcode : isCode (codeText row)
  · have hlong : ¬ maxDigits < (rowName row).length := by
      rw [rowName_of_isCode hcode]
      exact Nat.not_lt.mpr (hshort hcode)
    rw [ofRow_of_isCode _ hlegible hcode hlong, if_pos (isCoded_iff.mpr hcode), choiceAt, hplace]
    rfl
  · rw [ofRow_of_not_isCode hlegible (mt isCode_rowName_iff.mp hcode),
      if_neg (mt isCoded_iff.mp hcode)]
    rfl

/-- The choices of rows behind others, which are numbered on from those of them with content. -/
theorem ofRows_filter_hasContent (sheet : Sheet) (before rows : List Row)
    (hrows : sheet.rows = before ++ rows)
    (hlegible : ∀ row ∈ rows, row.hasContent → isLegible (listColumn sheet.columns) row)
    (hshort : ∀ row ∈ rows, isCode (codeText row) → (codeText row).length ≤ maxDigits) :
    ofRows (listColumn sheet.columns) (rows.filter Row.hasContent)
        (before.countP Row.hasContent + 1) =
      ((rows.zipIdx before.length).filter fun p => isCoded p.1).map (choiceAt sheet) := by
  induction rows generalizing before with
  | nil => rfl
  | cons row rows ih =>
    have hrows' : sheet.rows = (before ++ [row]) ++ rows := by
      rw [hrows, List.append_assoc, List.singleton_append]
    have hrest := ih (before ++ [row]) hrows' (fun r hr => hlegible r (List.mem_cons_of_mem _ hr))
      fun r hr => hshort r (List.mem_cons_of_mem _ hr)
    rw [List.countP_append, List.countP_singleton, List.length_append,
      List.length_singleton] at hrest
    rw [List.zipIdx_cons, List.filter_cons, List.filter_cons]
    by_cases hcontent : row.hasContent
    · have hplace : (sheet.rows.take (before.length + 1)).countP Row.hasContent =
          before.countP Row.hasContent + 1 := by
        rw [hrows', List.take_left' (by simp), List.countP_append, List.countP_singleton,
          if_pos hcontent]
      rw [if_pos hcontent] at hrest ⊢
      have hfirst := hlegible row (List.mem_cons_self ..) hcontent
      rw [ofRows_cons, hrest, choice?_ofRow hfirst (hshort row (List.mem_cons_self ..)) hplace]
      by_cases hcoded : isCoded row
      · rw [if_pos hcoded, if_pos hcoded]
        rfl
      · rw [if_neg hcoded, if_neg hcoded]
        rfl
    · have hcoded : ¬ isCoded row := fun h => hcontent (Bool.and_eq_true_iff.mp h).1
      rw [if_neg hcontent, Nat.add_zero] at hrest
      rw [if_neg hcontent, if_neg hcoded, hrest]

theorem ofRows_eq_codedChoices (hlegible : Legible sheet)
    (hshort : ∀ row ∈ sheet.rows, isCode (codeText row) → (codeText row).length ≤ maxDigits) :
    ofRows (listColumn sheet.columns) (sheet.rows.filter Row.hasContent) 1 = codedChoices sheet :=
  ofRows_filter_hasContent sheet [] sheet.rows rfl hlegible hshort

/-- A choices sheet with the columns that it needs, in which no code has too many digits and every
row with content is legible, has a choice for each row that is an option, in order, and their
numbers increase. Which code the name of a row gives is the number that its cell spells, if it has a
text: an integer, a floating-point number of that value, or a text with zeros in front, blanks
around and line breaks anywhere. Any other cell gives none. -/
theorem load_eq_codedChoices (hcolumns : sheet.missing (requiredColumns sheet.columns) = [])
    (hshort : ∀ row ∈ sheet.rows, isCode (codeText row) → (codeText row).length ≤ maxDigits)
    (hlegible : Legible sheet) :
    load sheet = .ok (codedChoices sheet) ∧
    (codedChoices sheet).Pairwise (fun a b => a.order < b.order) ∧
    ∀ row s n, OrderedMap.get? row "name" = some (.scalar s) → s.hasText →
      (isCoded row ∧ codeNumber row = n ↔ s.Spells n) := by
  refine ⟨?choices, ?places, fun row s n h hs => isCoded_and_iff_spells h hs⟩
  case choices =>
    rw [load_of_loads (loads_of_short hcolumns hshort) hlegible, readings_eq_ofRows,
      ofRows_eq_codedChoices hlegible hshort]
  case places =>
    rw [← ofRows_eq_codedChoices hlegible hshort]
    exact pairwise_order_ofRows ..

/-- A row of a choices sheet without a label. -/
def namedRow (list name : Scalar) : Row := [("list_name", .scalar list), ("name", .scalar name)]

/-- A choices sheet whose names are an integer, a floating-point number, a text with zeros, blanks
and line breaks, and then a negative number, a fraction and a digit of another script. The second
row has no content. -/
def numeralSheet : Sheet :=
  ⟨"choices", ["list_name", "name", "label"],
    [namedRow (.text "yes no") (.int 3), namedRow .null .null,
      namedRow (.text "yes no") (.real (.ofInt 12)), namedRow (.text "yes no") (.text "\r 0\n07 \n"),
      namedRow (.text "yes no") (.int (-3)), namedRow (.text "yes no") (.real (.ofRatio false 3 2)),
      namedRow (.text "yes no") (.text "٣")]⟩

theorem load_numeralSheet :
    numeralSheet.missing (requiredColumns numeralSheet.columns) = [] ∧
    (∀ row ∈ numeralSheet.rows, isCode (codeText row) → (codeText row).length ≤ maxDigits) ∧
    Legible numeralSheet ∧
    load numeralSheet =
      .ok [⟨"yesno", 3, "", 1⟩, ⟨"yesno", 12, "", 2⟩, ⟨"yesno", 7, "", 3⟩] := by
  have hcolumns : numeralSheet.missing (requiredColumns numeralSheet.columns) = [] := by decide
  have hshort : ∀ row ∈ numeralSheet.rows, isCode (codeText row) →
      (codeText row).length ≤ maxDigits := by
    decide +kernel
  have hlegible : Legible numeralSheet := by
    unfold Legible
    decide +kernel
  have hchoices : codedChoices numeralSheet =
      [⟨"yesno", 3, "", 1⟩, ⟨"yesno", 12, "", 2⟩, ⟨"yesno", 7, "", 3⟩] := by
    decide +kernel
  refine ⟨hcolumns, hshort, hlegible, ?_⟩
  rw [← hchoices]
  exact (load_eq_codedChoices hcolumns hshort hlegible).1

/-- A choices sheet whose only name is a negative integer with too many digits. -/
def overlongSheet : Sheet :=
  ⟨"choices", ["list_name", "name", "label"],
    [namedRow (.text "yes no") (.int (-Scalar.numeralBound))]⟩

/-- The name of a row need not be a value code for the sheet to fail: that of a negative integer with
too many digits has no text. -/
theorem load_overlongSheet :
    overlongSheet.missing (requiredColumns overlongSheet.columns) = [] ∧
    (∀ row ∈ overlongSheet.rows, isCode (codeText row) → (codeText row).length ≤ maxDigits) ∧
    load overlongSheet = .error .numeralTooLong := by
  decide +kernel

end Choice

end SurveyChecks
