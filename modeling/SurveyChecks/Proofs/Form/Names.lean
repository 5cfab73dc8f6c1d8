import Mathlib.Data.List.Chain
import SurveyChecks.Proofs.Checks.DatasetNames
import SurveyChecks.Proofs.Form.Types

/-!
# Names of questions

The name of a question is the cell of its row, trimmed, without dots and in small letters. It has no
dots. Deleting the dots may uncover blanks, which then stay in the name: the name is trimmed just
when no blank stands behind the dots at the start of the trimmed cell or before those at its end,
and it has a character that is not blank just when the cell has one that is no dot either.
-/

namespace SurveyChecks

open SurveyChecks.Text

/-! ## Deleting dots -/

section Dots

variable {c : Char} {cs : List Char} {s : String}

/-- The characters without the dots. -/
def undotted (cs : List Char) : List Char := cs.filter (!· == '.')

/-- A blank stands behind the dots at the start, of which there may be none. -/
def LeadsToBlank (cs : List Char) : Prop :=
  ∃ n c rest, isBlank c ∧ cs = List.replicate n '.' ++ c :: rest

/-- No dot stands beside a blank. -/
def DotsApart (cs : List Char) : Prop :=
  cs.IsChain fun a b => ¬ (a = '.' ∧ isBlank b) ∧ ¬ (isBlank a ∧ b = '.')

instance : DecidablePred DotsApart := fun cs => by
  unfold DotsApart
  infer_instance

theorem head?_undotted_iff :
    (undotted cs).head? = some c ↔ c ≠ '.' ∧ ∃ n rest, cs = List.replicate n '.' ++ c :: rest := by
  induction cs with
  | nil => simp [undotted]
  | cons d cs ih =>
    by_cases hd : d = '.'
    · have hskip : undotted (d :: cs) = undotted cs := by simp [undotted, hd]
      rw [hskip, ih, hd]
      refine and_congr_right fun hc => ?_
      constructor
      · rintro ⟨n, rest, rfl⟩
        exact ⟨n + 1, rest, rfl⟩
      · rintro ⟨n, rest, heq⟩
        cases n with
        | zero => exact absurd (List.cons.inj heq).1.symm hc
        | succ n => exact ⟨n, rest, (List.cons.inj heq).2⟩
    · have hkeep : (undotted (d :: cs)).head? = some d := by simp [undotted, hd]
      rw [hkeep, Option.some.injEq]
      constructor
      · rintro rfl
        exact ⟨hd, 0, cs, rfl⟩
      · rintro ⟨-, n, rest, heq⟩
        cases n with
        | zero => exact (List.cons.inj heq).1
        | succ n => exact absurd (List.cons.inj heq).1 hd

theorem first_undotted_iff :
    (∀ c ∈ (undotted cs).head?, isBlank c = false) ↔ ¬ LeadsToBlank cs := by
  constructor
  · rintro h ⟨n, c, rest, hblank, heq⟩
    have hdot : c ≠ '.' := by
      rintro rfl
      exact absurd hblank (by decide)
    exact Bool.false_ne_true ((h c (head?_undotted_iff.mpr ⟨hdot, n, rest, heq⟩)).symm.trans hblank)
  · intro h c hc
    obtain ⟨-, n, rest, heq⟩ := head?_undotted_iff.mp hc
    exact Bool.eq_false_iff.mpr fun hblank => h ⟨n, c, rest, hblank, heq⟩

/-- Deleting the dots leaves a trimmed text just when no blank stands behind those at the start or
before those at the end. -/
theorem isTrimmed_undotted_iff :
    IsTrimmed (undotted cs) ↔ ¬ LeadsToBlank cs ∧ ¬ LeadsToBlank cs.reverse := by
  have hreverse : (undotted cs.reverse).head? = (undotted cs).getLast? := by
    rw [undotted, List.filter_reverse, List.head?_reverse, undotted]
  have hlast : (∀ c ∈ (undotted cs.reverse).head?, isBlank c = false) ↔ ¬ LeadsToBlank cs.reverse :=
    first_undotted_iff
  rw [hreverse] at hlast
  rw [← first_undotted_iff, ← hlast]
  exact ⟨fun h => ⟨h.first, h.last⟩, fun h => ⟨h.1, h.2⟩⟩

theorem DotsApart.reverse (h : DotsApart cs) : DotsApart cs.reverse :=
  List.isChain_reverse.mpr (h.imp fun _ _ hab => ⟨fun hba => hab.2 hba.symm, fun hba => hab.1 hba.symm⟩)

theorem DotsApart.not_leadsToBlank (h : DotsApart cs)
    (hfirst : ∀ c ∈ cs.head?, isBlank c = false) : ¬ LeadsToBlank cs := by
  rintro ⟨n, c, rest, hblank, rfl⟩
  cases n with
  | zero => exact Bool.false_ne_true ((hfirst c rfl).symm.trans hblank)
  | succ n =>
    rw [List.replicate_succ', DotsApart, List.isChain_append] at h
    exact (h.2.2 '.' (by simp) c rfl).1 ⟨rfl, hblank⟩

theorem DotsApart.isTrimmed_undotted (h : DotsApart cs) (htrimmed : IsTrimmed cs) :
    IsTrimmed (undotted cs) := by
  refine isTrimmed_undotted_iff.mpr ⟨h.not_leadsToBlank htrimmed.first, ?_⟩
  refine h.reverse.not_leadsToBlank fun c hc => htrimmed.last c ?_
  rwa [List.head?_reverse] at hc

theorem DotsApart.strip (h : DotsApart s.toList) : DotsApart (strip s).toList := by
  obtain ⟨bs, bs', -, -, heq⟩ := exists_eq_append_stripChars s.toList
  rw [Text.strip, String.toList_ofList]
  exact List.IsChain.infix h ⟨bs, bs', by rw [List.append_assoc, ← heq]⟩

end Dots

namespace Question

variable {sheet : Sheet} {columns : List String} {row : Row} {q : Question} {qs : List Question}

/-! ## The name of a row -/

/-- The cell of the name of a row, trimmed. -/
def nameCell (row : Row) : List Char := (strip (row.text "name")).toList

theorem rowName_eq (row : Row) : rowName row = lower (String.ofList (undotted (nameCell row))) := rfl

theorem not_mem_rowName (row : Row) : '.' ∉ (rowName row).toList := by
  intro hdot
  exact ((mem_rowName_iff (by decide +kernel)).mp hdot).2 rfl

theorem isTrimmed_rowName_iff :
    IsTrimmed (rowName row).toList ↔
      ¬ LeadsToBlank (nameCell row) ∧ ¬ LeadsToBlank (nameCell row).reverse := by
  rw [rowName_eq, isTrimmed_lower_iff, String.toList_ofList, isTrimmed_undotted_iff]

theorem isTrimmed_rowName (h : DotsApart (row.text "name").toList) :
    IsTrimmed (rowName row).toList := by
  rw [rowName_eq, isTrimmed_lower_iff, String.toList_ofList]
  exact h.strip.isTrimmed_undotted (isTrimmed_strip _)

/-! ## The names of the questions of a sheet -/

theorem ReadFrom.name_eq (h : ReadFrom columns row q) : q.name = rowName row := by
  obtain ⟨q₀, hread, heq⟩ := h
  have hname : q.name = q₀.name := by rw [heq]
  exact hname.trans (workingLabel_of_ofRow? hread).1

theorem ReadFrom.base_of_name_eq_empty (h : ReadFrom columns row q) (hname : q.name = "") :
    q.base = endRepeat := by
  obtain ⟨q₀, hread, heq⟩ := h
  have hbase : q.base = q₀.base := by rw [base, heq, base]
  have hempty : q₀.name = q.name := by rw [heq]
  exact hbase.trans (Question.base_of_name_eq_empty hread (hempty.trans hname))

/-- A trimmed name shows, unless it is the empty name of a row that closes a repeat group. -/
theorem ReadFrom.shows_of_isTrimmed (h : ReadFrom columns row q) (htrimmed : IsTrimmed q.name.toList)
    (hbase : q.base ≠ endRepeat) : ∃ c ∈ q.name.toList, isBlank c = false := by
  refine htrimmed.exists_mem fun hnil => hbase (h.base_of_name_eq_empty ?_)
  exact String.toList_eq_nil_iff.mp hnil

/-- The name of a question has no dot, and it is not empty unless the question closes a repeat
group. It is trimmed just when no blank stands behind the dots at the start of the trimmed cell of
the name or before those at its end, and it shows just when the cell has a character that is neither
blank nor a dot. So when no dot of the cell stands beside a blank, the name is trimmed, and it shows
unless the question closes a repeat group. -/
theorem names_of_load (h : load sheet = .ok qs) (hq : q ∈ qs) :
    '.' ∉ q.name.toList ∧ (q.base ≠ endRepeat → q.name ≠ "") ∧
    ∃ row ∈ sheet.rows, ReadFrom sheet.columns row q ∧
      (IsTrimmed q.name.toList ↔
        ¬ LeadsToBlank (nameCell row) ∧ ¬ LeadsToBlank (nameCell row).reverse) ∧
      ((∃ c ∈ q.name.toList, isBlank c = false) ↔
        ∃ c ∈ nameCell row, isBlank c = false ∧ c ≠ '.') ∧
      (DotsApart (row.text "name").toList →
        IsTrimmed q.name.toList ∧
          (q.base ≠ endRepeat → ∃ c ∈ q.name.toList, isBlank c = false)) := by
  obtain ⟨row, hrow, hread⟩ := exists_row_of_mem_load h hq
  have hname := hread.name_eq
  refine ⟨?dots, ?named, row, hrow, hread, ?trimmed, ?shows, ?apart⟩
  case dots =>
    rw [hname]
    exact not_mem_rowName row
  case named =>
    intro hbase hempty
    exact hbase (hread.base_of_name_eq_empty hempty)
  case trimmed =>
    rw [hname]
    exact isTrimmed_rowName_iff
  case shows =>
    rw [hname]
    exact shows_rowName_iff
  case apart =>
    intro hapart
    have htrimmed : IsTrimmed q.name.toList := by
      rw [hname]
      exact isTrimmed_rowName hapart
    exact ⟨htrimmed, hread.shows_of_isTrimmed htrimmed⟩

/-- A row whose name starts with a dot before a blank, and one whose name has dots and blanks only.
-/
def dottedSurvey : Sheet :=
  ⟨"survey", ["type", "name"],
    [[("type", .text "integer"), ("name", .text ". Age")],
     [("type", .text "integer"), ("name", .text ". .")]]⟩

/-- The questions of the rows. -/
def dottedQuestions : List Question :=
  [{ name := " age", rawType := "integer", tokens := ["integer"], order := 1 },
   { name := " ", rawType := "integer", tokens := ["integer"], order := 2 }]

theorem load_dottedSurvey : load dottedSurvey = .ok dottedQuestions := by decide +kernel

/-- Neither name is trimmed, and the second does not show. -/
theorem names_of_load_dottedSurvey :
    load dottedSurvey = .ok dottedQuestions ∧
      ∀ q ∈ dottedQuestions, '.' ∉ q.name.toList ∧ q.name ≠ "" ∧ ∃ row ∈ dottedSurvey.rows,
        (IsTrimmed q.name.toList ↔
          ¬ LeadsToBlank (nameCell row) ∧ ¬ LeadsToBlank (nameCell row).reverse) ∧
        ((∃ c ∈ q.name.toList, isBlank c = false) ↔
          ∃ c ∈ nameCell row, isBlank c = false ∧ c ≠ '.') := by
  have hbases : ∀ q ∈ dottedQuestions, q.base ≠ endRepeat := by decide
  refine ⟨load_dottedSurvey, fun q hq => ?_⟩
  obtain ⟨hdots, hnamed, row, hrow, -, htrimmed, hshows, -⟩ := names_of_load load_dottedSurvey hq
  exact ⟨hdots, hnamed (hbases q hq), row, hrow, htrimmed, hshows⟩

/-- A name may start with a blank, and it may be blank although the question closes no repeat group.
-/
theorem not_isTrimmed_of_dotted_name :
    load dottedSurvey = .ok dottedQuestions ∧
    (∃ q ∈ dottedQuestions, ¬ IsTrimmed q.name.toList) ∧
    ∃ q ∈ dottedQuestions, q.base ≠ endRepeat ∧ ¬ ∃ c ∈ q.name.toList, isBlank c = false := by
  have hblank : " ".toList.all isBlank = true := by decide
  refine ⟨load_dottedSurvey, ?_, ?_⟩
  · exact ⟨_, List.mem_cons_self .., by decide +kernel⟩
  · refine ⟨_, List.mem_cons_of_mem _ (List.mem_cons_self ..), by decide, ?_⟩
    rintro ⟨c, hc, hshows⟩
    exact Bool.false_ne_true (hshows.symm.trans (List.all_eq_true.mp hblank c hc))

end Question

end SurveyChecks
