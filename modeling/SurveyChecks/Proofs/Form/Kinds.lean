import SurveyChecks.Proofs.Form.Composition
import SurveyChecks.Proofs.Text.Edit

/-!
# Kinds of the questions of a form

The questions of an analysed form have the kind of their type, and those that ask for one option of
a list have a name and refer to the second word of their type.
-/

namespace SurveyChecks

namespace Question

variable {columns : List String} {row : Row} {q : Question}

/-- Only the type of select-one questions makes a question one. -/
theorem base_of_classify_eq_selectOne (h : q.classify = .selectOne) : q.base = "select_one" := by
  have hrules : ∀ r ∈ kindRules, r.kind = .selectOne → r.applies q → q.base = "select_one" := by
    simp [kindRules, overrideRules, specificRules, otherRules, baseRule]
  unfold classify kindBy at h
  cases hfind : kindRules.find? (·.applies q) with
  | none => simp [hfind] at h
  | some r =>
    have hkind : r.kind = .selectOne := by simpa [hfind] using h
    have happlies : r.applies q = true :=
      List.find?_some (p := fun r : KindRule => r.applies q) hfind
    exact hrules r (List.mem_of_find?_eq_some hfind) hkind happlies

theorem tokens_of_ofRow? (h : ofRow? columns row = some q) :
    q.tokens = Text.words (rowType row) := by
  unfold ofRow? at h
  dsimp only at h
  split at h
  · simp at h
  · obtain rfl := Option.some.inj h
    dsimp only

/-- Only a row that closes a repeat group is kept without a name. -/
theorem base_of_name_eq_empty (h : ofRow? columns row = some q) (hname : q.name = "") :
    q.base = endRepeat := by
  unfold ofRow? at h
  dsimp only at h
  split at h
  · simp at h
  · rename_i hkeep
    obtain rfl := Option.some.inj h
    have hhead : (Text.words (rowType row)).head? = some endRepeat := by
      by_contra hne
      exact hkeep ⟨hname, hne⟩
    rw [base, hhead]
    rfl

end Question

namespace Form

variable {survey choices : Sheet} {name : String} {f : Form} {q : Question}

/-- A question of an analysed form is that of a row, with its kind. -/
theorem exists_row_of_mem_questions (hf : parse survey choices name = .ok f)
    (hq : q ∈ f.questions) :
    ∃ row ∈ survey.rows, ∃ q₀, Question.ofRow? survey.columns row = some q₀ ∧ q.name = q₀.name ∧
      q.tokens = q₀.tokens ∧ q.kind = some q.classify := by
  obtain ⟨cs, qs, gs, -, hload, -, rfl⟩ := parse_eq_ok_iff.mp hf
  obtain ⟨-, rfl⟩ := loadQuestions_eq_ok_iff.mp hload
  obtain ⟨q₁, hq₁, rfl⟩ := List.mem_map.mp hq
  obtain ⟨row, hrow, q₀, n, hread, rfl⟩ := exists_row_of_mem_ofRows hq₁
  refine ⟨row, hrow, q₀, hread, rfl, rfl, ?_⟩
  exact congrArg some (Question.classify_congr rfl rfl rfl)

/-- A select-one question of an analysed form has a name and refers to the second word of its type.
-/
theorem selectOne_of_parse (hf : parse survey choices name = .ok f) (hq : q ∈ f.questions)
    (hkind : q.kind = some .selectOne) : q.name ≠ "" ∧ q.choiceList? = q.tokens[1]? := by
  obtain ⟨row, -, q₀, hread, hname, htokens, hclass⟩ := exists_row_of_mem_questions hf hq
  have hselect : q.classify = .selectOne := Option.some.inj (hclass.symm.trans hkind)
  have hbase := Question.base_of_classify_eq_selectOne hselect
  refine ⟨fun hempty => ?_, by rw [Question.choiceList?, hbase]; simp⟩
  have hclose := Question.base_of_name_eq_empty hread (hname ▸ hempty)
  rw [Question.base, htokens, ← Question.base, hclose] at hbase
  exact absurd hbase (by decide)

/-- A list that a question of an analysed form refers to has a name. -/
theorem choiceList?_ne_empty (hf : parse survey choices name = .ok f) (hq : q ∈ f.questions) :
    q.choiceList? ≠ some "" := by
  obtain ⟨row, -, q₀, hread, -, htokens, -⟩ := exists_row_of_mem_questions hf hq
  intro hempty
  have hmem : "" ∈ q₀.tokens := by
    unfold Question.choiceList? at hempty
    split at hempty
    · exact htokens ▸ List.mem_of_getElem? hempty
    · simp at hempty
  rw [Question.tokens_of_ofRow? hread] at hmem
  exact Text.ne_empty_of_mem_words hmem rfl

end Form

end SurveyChecks
