import Mathlib.Data.List.Sort
import SurveyChecks.Proofs.Form.Analysis
import SurveyChecks.Proofs.Form.Choices
import SurveyChecks.Proofs.Text.Edit

/-!
# Codes of choice lists

Which codes an analysed form has under the name of a list: those of the rows of the choices sheet
that name the list and have a numeral for a name, each once, in the sequence of the sheet.
-/

namespace SurveyChecks.Choice

open SurveyChecks.Text
open OrderedMap (get?)

/-! ## Rows that are options -/

/-- The text that names a row, on one line and trimmed. -/
def codeText (row : Row) : String := strip (Label.withoutLineBreaks (row.text "name"))

/-- Whether a row is an option of a list: its list name without spaces is the name of the list, and
its own name is a numeral. -/
def isOption (column list : String) (row : Row) : Bool :=
  without (· == ' ') (row.text column) == list && isCode (codeText row)

/-- The number that the name of a row denotes. -/
def codeValue (row : Row) : Int := (decimalValue (codeText row).toList : Nat)

/-- What decides where a choice is filed and whether it is kept: its list and its code. -/
def key (c : Choice) : String × Int := (c.list, c.code)

/-- The list and the code of a row. -/
def rowKey (column : String) (row : Row) : String × Int :=
  (without (· == ' ') (row.text column), codeValue row)

/-- The distinct codes of a list in a sheet, in the sequence of the sheet. -/
def codesIn (sheet : Sheet) (list : String) : List Int :=
  ((sheet.rows.filter (isOption (listColumn sheet.columns) list)).map codeValue).eraseDups

section Rows

variable {column list : String} {row : Row} {number : Nat}

theorem rowName_eq_replaceFirst (row : Row) :
    rowName row = replaceFirst '-' '_' (codeText row) := rfl

/-- The hyphen that is replaced in the name of a row makes no difference to numerals. -/
theorem rowName_eq_codeText (h : '-' ∉ (codeText row).toList) : rowName row = codeText row := by
  rw [rowName_eq_replaceFirst, replaceFirst, replaceFirstIn_of_not_mem h, String.ofList_toList]

theorem isCode_iff {s : String} : isCode s ↔ s ≠ "" ∧ ∀ c ∈ s.toList, isDigit c := by
  simp [isCode]

theorem isCode_rowName_iff : isCode (rowName row) ↔ isCode (codeText row) := by
  by_cases hhyphen : '-' ∈ (codeText row).toList
  · have hunderscore : '_' ∈ (rowName row).toList := by
      rw [rowName_eq_replaceFirst, replaceFirst, String.toList_ofList]
      exact mem_replaceFirstIn hhyphen
    have hleft : ¬ isCode (rowName row) := fun h =>
      absurd ((isCode_iff.mp h).2 _ hunderscore) (by decide)
    have hright : ¬ isCode (codeText row) := fun h =>
      absurd ((isCode_iff.mp h).2 _ hhyphen) (by decide)
    exact iff_of_false hleft hright
  · rw [rowName_eq_codeText hhyphen]

theorem rowName_of_isCode (h : isCode (codeText row)) : rowName row = codeText row :=
  rowName_eq_codeText fun hin => absurd ((isCode_iff.mp h).2 _ hin) (by decide)

theorem hasContent_of_isCode (h : isCode (codeText row)) : row.hasContent := by
  have hstrip : strip (row.text "name") ≠ "" := strip_ne_empty_of_without (isCode_iff.mp h).1
  unfold Row.text Row.cell at hstrip
  cases hget : get? row "name" with
  | none =>
    rw [hget] at hstrip
    exact absurd (by decide) hstrip
  | some cell =>
    rw [hget, Option.getD_some] at hstrip
    obtain ⟨p, hp, rfl⟩ := Option.map_eq_some_iff.mp hget
    exact List.any_eq_true.mpr ⟨p, List.mem_of_find?_eq_some hp, Row.isFilled_of_strip_ne hstrip⟩

theorem ofRow_of_isCode (number : Nat) (hlegible : isLegible column row)
    (h : isCode (codeText row)) (hshort : ¬ maxDigits < (rowName row).length) :
    ofRow column row number = .choice
      ⟨without (· == ' ') (row.text column), codeValue row, Label.safe false (row.text "label"),
        number⟩ := by
  rw [ofRow_of_short hlegible (isCode_rowName_iff.mpr h) hshort, codeValue, rowName_of_isCode h]

end Rows

/-! ## The choices of a sheet -/

section Sheets

variable {column list : String} {rows : List Row} {row : Row} {c : Choice} {cs : List Choice}
  {n : Nat}

/-- The choices among rows that are numbered from `n`. -/
def ofRows (column : String) (rows : List Row) (n : Nat) : List Choice :=
  (rows.zipIdx n).filterMap fun (row, number) => (ofRow column row number).choice?

theorem ofRows_cons (column : String) (row : Row) (rows : List Row) (n : Nat) :
    ofRows column (row :: rows) n =
      (ofRow column row n).choice?.toList ++ ofRows column rows (n + 1) := by
  unfold ofRows
  rw [List.zipIdx_cons, List.filterMap_cons]
  cases hrow : (ofRow column row n).choice? with
  | none => simp [hrow]
  | some c => simp [hrow]

theorem order_of_ofRow (h : c ∈ (ofRow column row n).choice?.toList) : c.order = n := by
  have hrow := Reading.choice?_eq_some_iff.mp (Option.mem_toList.mp h)
  exact (of_ofRow_eq_choice hrow).2 ▸ rfl

theorem order_of_mem_ofRows (h : c ∈ ofRows column rows n) : (n : Int) ≤ c.order := by
  induction rows generalizing n with
  | nil => simp [ofRows] at h
  | cons row rows ih =>
    rw [ofRows_cons] at h
    rcases List.mem_append.mp h with hrow | hrows
    · exact (order_of_ofRow hrow).ge
    · have := ih hrows
      omega

theorem pairwise_order_ofRows (column : String) (rows : List Row) (n : Nat) :
    (ofRows column rows n).Pairwise fun a b => a.order < b.order := by
  induction rows generalizing n with
  | nil => simp [ofRows]
  | cons row rows ih =>
    rw [ofRows_cons, List.pairwise_append]
    refine ⟨?_, ih (n + 1), fun a ha b hb => ?_⟩
    · cases (ofRow column row n).choice? <;> simp
    · have ha := order_of_ofRow ha
      have hb := order_of_mem_ofRows hb
      omega

theorem inOrder_ofRows (column : String) (rows : List Row) (n : Nat) :
    inOrder (ofRows column rows n) = ofRows column rows n := by
  refine List.mergeSort_of_pairwise ((pairwise_order_ofRows column rows n).imp fun hab => ?_)
  simpa using le_of_lt hab

theorem readings_eq_ofRows (sheet : Sheet) :
    (readings sheet).filterMap Reading.choice? =
      ofRows (listColumn sheet.columns) (sheet.rows.filter Row.hasContent) 1 := by
  rw [readings, List.filterMap_map]
  rfl

/-- The choices of rows have the lists and codes of the rows that are named by numerals. -/
theorem map_key_ofRows (hlegible : ∀ row ∈ rows, isLegible column row)
    (hshort : ∀ row ∈ rows, isCode (rowName row) → ¬ maxDigits < (rowName row).length) (n : Nat) :
    (ofRows column rows n).map key =
      (rows.filter fun row => isCode (codeText row)).map (rowKey column) := by
  induction rows generalizing n with
  | nil => rfl
  | cons row rows ih =>
    have hrows := ih (fun row hrow => hlegible row (List.mem_cons_of_mem _ hrow))
      (fun row hrow => hshort row (List.mem_cons_of_mem _ hrow)) (n + 1)
    have hfirst := hlegible row (List.mem_cons_self ..)
    rw [ofRows_cons, List.map_append, hrows, List.filter_cons]
    by_cases hcode : isCode (codeText row)
    · have hrow := ofRow_of_isCode n hfirst hcode
        (hshort row (List.mem_cons_self ..) (isCode_rowName_iff.mpr hcode))
      rw [hrow, if_pos hcode]
      rfl
    · rw [ofRow_of_not_isCode hfirst (mt isCode_rowName_iff.mp hcode), if_neg hcode]
      rfl

/-- The codes of a list among the choices of rows are those of the rows that are options of it. -/
theorem map_code_ofRows (list : String) (hlegible : ∀ row ∈ rows, isLegible column row)
    (hshort : ∀ row ∈ rows, isCode (rowName row) → ¬ maxDigits < (rowName row).length) (n : Nat) :
    ((ofRows column rows n).filter (·.list == list)).map (·.code) =
      (rows.filter (isOption column list)).map codeValue := by
  have hcodes : ((ofRows column rows n).filter (·.list == list)).map (·.code) =
      (((ofRows column rows n).map key).filter (·.1 == list)).map (·.2) := by
    rw [List.filter_map, List.map_map]
    rfl
  rw [hcodes, map_key_ofRows hlegible hshort, List.filter_map, List.map_map, List.filter_filter]
  rfl

/-! ## The first of each code -/

theorem filter_eraseDups {α : Type} [BEq α] [LawfulBEq α] (p : α → Bool) :
    ∀ l : List α, l.eraseDups.filter p = (l.filter p).eraseDups
  | [] => rfl
  | a :: l => by
    have hlen : (l.filter fun b => !b == a).length < l.length + 1 :=
      Nat.lt_succ_of_le (List.length_filter_le _ _)
    have hrest := filter_eraseDups p (l.filter fun b => !b == a)
    have hcomm : (l.filter fun b => !b == a).filter p = (l.filter p).filter fun b => !b == a :=
      List.filter_comm ..
    rw [List.eraseDups_cons, List.filter_cons, List.filter_cons, hrest, hcomm]
    by_cases hp : p a
    · simp [hp, List.eraseDups_cons]
    · have hsame : (l.filter p).filter (fun b => !b == a) = l.filter p := by
        refine List.filter_eq_self.mpr fun b hb => ?_
        have hb := (List.mem_filter.mp hb).2
        have hne : b ≠ a := fun heq => hp (heq ▸ hb)
        simpa using hne
      simp [hp, hsame]
termination_by l => l.length

/-- Keeping the first choice of each code of each list keeps the first of each code in a list. -/
theorem map_code_firstOfEach (cs : List Choice) (list : String) :
    ((firstOfEach cs).filter (·.list == list)).map (·.code) =
      ((cs.filter (·.list == list)).map (·.code)).eraseDups := by
  induction cs with
  | nil => rfl
  | cons c cs ih =>
    have hcomm : ((firstOfEach cs).filter fun d => !sameCode c d).filter (·.list == list) =
        ((firstOfEach cs).filter (·.list == list)).filter fun d => !sameCode c d :=
      List.filter_comm ..
    rw [firstOfEach, List.filter_cons, List.filter_cons, hcomm]
    by_cases hlist : c.list = list
    · have hsame : ((firstOfEach cs).filter (·.list == list)).filter (fun d => !sameCode c d) =
          ((firstOfEach cs).filter (·.list == list)).filter fun d => !d.code == c.code := by
        refine List.filter_congr fun d hd => ?_
        have hd : d.list = list := by simpa using (List.mem_filter.mp hd).2
        simp [sameCode, hlist, hd, Bool.beq_comm]
      have hmap : ∀ ds : List Choice, (ds.filter fun d => !d.code == c.code).map (·.code) =
          (ds.map (·.code)).filter fun k => !k == c.code := fun ds => by
        rw [List.filter_map]
        rfl
      simp only [hlist, beq_self_eq_true, if_true, List.map_cons, List.eraseDups_cons]
      rw [hsame, hmap, ih, filter_eraseDups]
    · have hsame : ((firstOfEach cs).filter (·.list == list)).filter (fun d => !sameCode c d) =
          (firstOfEach cs).filter (·.list == list) := by
        refine List.filter_eq_self.mpr fun d hd => ?_
        have hd : d.list = list := by simpa using (List.mem_filter.mp hd).2
        simp [sameCode, hlist, hd]
      simp only [beq_iff_eq, hlist, if_false]
      rw [hsame, ih]

end Sheets

section Parsed

variable {survey choices : Sheet} {name : String} {f : Form}

/-- The codes of a list of an analysed form are those of the sheet. -/
theorem codes_choiceList (hf : Form.parse survey choices name = .ok f) (list : String) :
    (f.choiceList list).map (·.code) = codesIn choices list := by
  obtain ⟨cs, qs, gs, hload, -, -, rfl⟩ := Form.parse_eq_ok_iff.mp hf
  obtain ⟨⟨hloads, hlegible⟩, rfl⟩ := load_eq_ok_iff.mp hload
  have hcontent : (choices.rows.filter Row.hasContent).filter
      (isOption (listColumn choices.columns) list) =
      choices.rows.filter (isOption (listColumn choices.columns) list) := by
    rw [List.filter_filter]
    refine List.filter_congr fun row _ => ?_
    by_cases hoption : isOption (listColumn choices.columns) list row
    · have hcode : isCode (codeText row) := (Bool.and_eq_true_iff.mp hoption).2
      simp [hoption, hasContent_of_isCode hcode]
    · simp [hoption]
  have hlist : (Form.analysed name ((readings choices).filterMap Reading.choice?) qs gs).choiceList
      list = (firstOfEach (inOrder ((readings choices).filterMap Reading.choice?))).filter
        (·.list == list) :=
    OrderedMap.getD_get?_groupBy ..
  rw [hlist, map_code_firstOfEach, readings_eq_ofRows, inOrder_ofRows,
    map_code_ofRows list hlegible.of_mem_filter hloads.short, hcontent]
  rfl

theorem codesIn_eq_nil_iff {sheet : Sheet} {list : String} :
    codesIn sheet list = [] ↔
      ¬ ∃ row ∈ sheet.rows, isOption (listColumn sheet.columns) list row := by
  simp only [List.eq_nil_iff_forall_not_mem, codesIn, List.mem_eraseDups, List.mem_map,
    List.mem_filter, not_exists, not_and]
  constructor
  · exact fun h row hin hoption => h _ row ⟨hin, hoption⟩ rfl
  · exact fun h _ row hrow _ => h row hrow.1 hrow.2

end Parsed

end SurveyChecks.Choice
