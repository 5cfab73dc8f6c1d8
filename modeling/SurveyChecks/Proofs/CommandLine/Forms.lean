import SurveyChecks.Form.File
import SurveyChecks.CommandLine.Run
import SurveyChecks.Proofs.CommandLine.Arguments
import SurveyChecks.Proofs.Form.Grid

/-!
# Forms that are not there

Why a run has no form: there is no workbook that can be opened, its sheets cannot be read, or they
cannot be analysed. A sheet of a workbook is read only when all its cells have texts, so of the
sheets that are read only those with a value code that is too long fail without a report.
-/

namespace SurveyChecks

/-! ## Steps that fail -/

section Steps

variable {ε ε' α β : Type}

theorem bind_eq_error_iff {x : Except ε α} {g : α → Except ε β} {e : ε} :
    x >>= g = .error e ↔ x = .error e ∨ ∃ a, x = .ok a ∧ g a = .error e := by
  cases x with
  | error e' => simp [bind, Except.bind]
  | ok a => simp [bind, Except.bind]

theorem map_eq_error_iff {x : Except ε α} {g : α → β} {e : ε} :
    x.map g = .error e ↔ x = .error e := by
  cases x with
  | error e' => simp [Except.map]
  | ok a => simp [Except.map]

theorem mapError_eq_error_iff {x : Except ε α} {g : ε → ε'} {e' : ε'} :
    x.mapError g = .error e' ↔ ∃ e, x = .error e ∧ g e = e' := by
  cases x with
  | error e => simp [Except.mapError]
  | ok a => simp [Except.mapError]

/-- The first element for which `q` holds, when `p` holds before it, is the head or stands in the
rest. -/
theorem exists_first_cons_iff {p q : α → Prop} {x : α} {xs : List α} :
    (∃ before y after, x :: xs = before ++ y :: after ∧ (∀ b ∈ before, p b) ∧ q y) ↔
      q x ∨ (p x ∧ ∃ before y after, xs = before ++ y :: after ∧ (∀ b ∈ before, p b) ∧ q y) := by
  constructor
  · rintro ⟨before, y, after, heq, hbefore, hy⟩
    cases before with
    | nil =>
      obtain ⟨rfl, -⟩ := List.cons.inj heq
      exact Or.inl hy
    | cons b before =>
      obtain ⟨rfl, rfl⟩ := List.cons.inj heq
      obtain ⟨hb, hbefore⟩ := List.forall_mem_cons.mp hbefore
      exact Or.inr ⟨hb, before, y, after, rfl, hbefore, hy⟩
  · rintro (hx | ⟨hx, before, y, after, rfl, hbefore, hy⟩)
    · exact ⟨[], x, xs, rfl, List.forall_mem_nil _, hx⟩
    · exact ⟨x :: before, y, after, rfl, List.forall_mem_cons.mpr ⟨hx, hbefore⟩, hy⟩

/-- Going through a list fails with the error of the first element that fails. -/
theorem mapM_eq_error_iff {f : α → Except ε β} {xs : List α} {e : ε} :
    xs.mapM f = .error e ↔ ∃ before x after, xs = before ++ x :: after ∧
      (∀ b ∈ before, ∃ y, f b = .ok y) ∧ f x = .error e := by
  induction xs with
  | nil => simp [pure, Except.pure]
  | cons x xs ih =>
    have hrest : ∀ y, (do let ys ← xs.mapM f; return y :: ys : Except ε (List β)) = .error e ↔
        xs.mapM f = .error e := fun y => by
      cases xs.mapM f <;> simp [bind, Except.bind, pure, Except.pure]
    rw [List.mapM_cons, bind_eq_error_iff, exists_first_cons_iff, ← ih]
    simp only [hrest, exists_and_right]

theorem exists_of_mapM_eq_ok {f : α → Except ε β} {xs : List α} {ys : List β}
    (h : xs.mapM f = .ok ys) : ∀ x ∈ xs, ∃ y, f x = .ok y := by
  induction xs generalizing ys with
  | nil => simp
  | cons x xs ih =>
    rw [List.mapM_cons] at h
    obtain ⟨y, hy, h⟩ := bind_eq_ok_iff.mp h
    obtain ⟨ys', hys', -⟩ := bind_eq_ok_iff.mp h
    exact List.forall_mem_cons.mpr ⟨⟨y, hy⟩, ih hys'⟩

theorem exists_of_mem_mapM {f : α → Except ε β} {xs : List α} {ys : List β} {y : β}
    (h : xs.mapM f = .ok ys) (hy : y ∈ ys) : ∃ x ∈ xs, f x = .ok y := by
  induction xs generalizing ys with
  | nil =>
    cases h
    contradiction
  | cons x xs ih =>
    rw [List.mapM_cons] at h
    obtain ⟨y', hy', h⟩ := bind_eq_ok_iff.mp h
    obtain ⟨ys', hys', h⟩ := bind_eq_ok_iff.mp h
    obtain rfl := Except.ok.inj h
    rcases List.mem_cons.mp hy with rfl | hy
    · exact ⟨x, List.mem_cons_self .., hy'⟩
    · obtain ⟨x', hx', hread⟩ := ih hys' hy
      exact ⟨x', List.mem_cons_of_mem _ hx', hread⟩

end Steps

/-! ## The sheets of a workbook -/

namespace Workbook

variable {b : Workbook} {name file : String} {names : List String} {s : Sheet} {e : FormError}
  {sheets : OrderedMap String Sheet}

/-- A sheet is read only when all its cells have texts. -/
theorem isTextual_of_readSheet (h : b.readSheet name = .ok s) : s.isTextual := by
  unfold readSheet at h
  dsimp only at h
  split at h
  · contradiction
  · split at h
    · contradiction
    · rename_i htexts
      refine Sheet.isTextual_of_ofGrid (fun cells hcells c hc => ?_) h
      obtain ⟨row, hrow, rfl⟩ := List.mem_map.mp hcells
      obtain ⟨value, hvalue, rfl⟩ := List.mem_map.mp hc
      simp only [Bool.not_eq_true', Bool.not_eq_false, List.all_eq_true] at htexts
      exact htexts row hrow value hvalue

/-- A sheet that cannot be read holds a character or an integer that cannot. -/
theorem error_of_readSheet (h : b.readSheet name = .error e) :
    e = .unreadable ∨ e = .numeralTooLong := by
  unfold readSheet at h
  dsimp only at h
  split at h
  · exact Or.inl (Except.error.inj h).symm
  · split at h
    · exact Or.inr (Except.error.inj h).symm
    · exact Or.inr (Sheet.error_of_ofGrid h)

theorem isTextual_of_readSheets (h : b.readSheets file names = .ok sheets) :
    ∀ p ∈ sheets, p.2.isTextual := by
  intro p hp
  unfold readSheets at h
  split at h
  · obtain ⟨pairs, hpairs, rfl⟩ := map_eq_ok_iff.mp h
    obtain ⟨name, -, hname⟩ := exists_of_mem_mapM hpairs (OrderedMap.mem_of_mem_ofPairs hp)
    obtain ⟨s, hs, rfl⟩ := map_eq_ok_iff.mp hname
    exact isTextual_of_readSheet hs
  · contradiction

/-- Sheets are not read when some are missing, or because of one of them. -/
theorem error_of_readSheets (h : b.readSheets file names = .error e) :
    (∃ missing, e = .missingSheets file missing) ∨ e = .unreadable ∨ e = .numeralTooLong := by
  unfold readSheets at h
  split at h
  · obtain ⟨-, name, -, -, -, hname⟩ := mapM_eq_error_iff.mp (map_eq_error_iff.mp h)
    exact Or.inr (error_of_readSheet (map_eq_error_iff.mp hname))
  · exact Or.inl ⟨_, (Except.error.inj h).symm⟩

end Workbook

theorem Form.isTextual_sheetNamed {sheets : OrderedMap String Sheet}
    (h : ∀ p ∈ sheets, p.2.isTextual) (name : String) : (sheetNamed sheets name).isTextual := by
  unfold sheetNamed
  cases hget : sheets.get? name with
  | none => rfl
  | some s => exact h (name, s) (OrderedMap.mem_of_get?_eq_some hget)

/-! ## Forms that are not reported -/

namespace Run

/-- The errors in forms that are not reported. -/
def silentErrors : List FormError :=
  [.nameTooLong, .notAWorkbookName, .notAWorkbook, .unreadable, .codeTooLong, .numeralTooLong]

section Forms

variable {survey choices : Sheet} {name path : String} {w : Workspace} {f : Form} {e : FormError}

theorem isReported_of_mem (h : e ∈ silentErrors) : isReported e = false := by
  cases e <;> simp_all [isReported, silentErrors]

/-- An analysis of sheets in which every cell has a text, if it fails, is reported, unless a value
code is too long. -/
theorem isReported_of_parse (hsurvey : survey.isTextual) (hchoices : choices.isTextual)
    (h : Form.parse survey choices name = .error e) :
    isReported e = true ∨
      (choices.missing (Choice.requiredColumns choices.columns) = [] ∧ Choice.HasLongCode choices ∧
        e = .codeTooLong) := by
  have hrows := Question.legible_of_isTextual hsurvey
  have hoptions := Choice.legible_of_isTextual hchoices
  by_cases hcolumns : choices.missing (Choice.requiredColumns choices.columns) = []
  · by_cases hlong : Choice.HasLongCode choices
    · rw [Form.parse_of_hasLongCode hoptions hcolumns hlong] at h
      exact Or.inr ⟨hcolumns, hlong, (Except.error.inj h).symm⟩
    · have hloads : Choice.Loads choices := ⟨hcolumns, hlong⟩
      refine Or.inl ?_
      by_cases hneeded : survey.missing ["type", "name"] = []
      · by_cases hbalanced : Repeat.Balanced (Form.markerKinds survey)
        · have hok : ∃ f, Form.parse survey choices name = .ok f :=
            Form.parse_of_balanced hoptions hloads ⟨hneeded, hrows⟩ hbalanced
          obtain ⟨f, hf⟩ := hok
          rw [hf] at h
          contradiction
        · have herror : ∃ e, e.IsMalformedRepeat ∧ Form.parse survey choices name = .error e :=
            Form.parse_of_not_balanced hoptions hloads ⟨hneeded, hrows⟩ hbalanced
          obtain ⟨e', he', hparse⟩ := herror
          obtain rfl := Except.error.inj (hparse.symm.trans h)
          cases e' <;> simp_all [FormError.IsMalformedRepeat, isReported]
      · rw [Form.parse_of_survey_columns_missing hoptions hloads hneeded] at h
        obtain rfl := Except.error.inj h
        rfl
  · rw [Form.parse_of_choices_error (Choice.load_of_missing hcolumns)] at h
    obtain rfl := Except.error.inj h
    exact Or.inl rfl

/-- A workbook that cannot be opened is reported only when there is none. -/
theorem error_of_openWorkbook (h : w.openWorkbook path = .error e) :
    e = .noWorkbook path ∨ e ∈ silentErrors := by
  unfold Workspace.openWorkbook at h
  split at h
  · split at h
    · cases h
      simp [silentErrors]
    · split at h
      · split at h
        · contradiction
        · cases h
          simp [silentErrors]
      · cases h
        simp [silentErrors]
  all_goals
    cases h
    simp [silentErrors]

/-- The sheets of a form that are read from a file have texts in all cells. -/
theorem isTextual_of_readSheets {sheets : OrderedMap String Sheet} {names : List String}
    (h : w.readSheets path names = .ok sheets) (name : String) :
    (Form.sheetNamed sheets name).isTextual := by
  obtain ⟨b, -, hsheets⟩ := bind_eq_ok_iff.mp h
  exact Form.isTextual_sheetNamed (Workbook.isTextual_of_readSheets hsheets) name

/-- A form from a file is not there because of its workbook, its sheets or their rows. -/
theorem ofFile_eq_error_iff :
    Form.ofFile w path none = .error e ↔ w.readSheets path Form.sheetNames = .error e ∨
      ∃ sheets, w.readSheets path Form.sheetNames = .ok sheets ∧
        Form.parse (Form.sheetNamed sheets Form.surveySheet)
          (Form.sheetNamed sheets Form.choicesSheet) (PathName.stem path) = .error e := by
  unfold Form.ofFile
  rw [bind_eq_error_iff]
  refine or_congr_right (exists_congr fun sheets => and_congr_right fun _ => ?_)
  rw [bind_eq_error_iff]
  simp [Form.nameFor, pure, Except.pure]

/-- A form from a file that is not there is reported, or the error is one of the silent ones. -/
theorem isReported_iff_of_ofFile (h : Form.ofFile w path none = .error e) :
    isReported e = true ↔ e ∉ silentErrors := by
  constructor
  · intro hreported hsilent
    rw [isReported_of_mem hsilent] at hreported
    contradiction
  · intro hloud
    rcases ofFile_eq_error_iff.mp h with h | ⟨sheets, hsheets, h⟩
    · rcases bind_eq_error_iff.mp h with h | ⟨b, -, h⟩
      · obtain rfl := (error_of_openWorkbook h).resolve_right hloud
        rfl
      · rcases Workbook.error_of_readSheets h with ⟨missing, rfl⟩ | rfl | rfl
        · rfl
        · exact absurd (by decide) hloud
        · exact absurd (by decide) hloud
    · refine (isReported_of_parse (isTextual_of_readSheets hsheets _)
        (isTextual_of_readSheets hsheets _) h).resolve_right ?_
      rintro ⟨-, -, rfl⟩
      exact hloud (by decide)

end Forms

end Run

end SurveyChecks
