import SurveyChecks.Proofs.Form.Choices
import SurveyChecks.Proofs.Form.Names

/-!
# Safe labels

The labels of questions and of choices are cells made safe for scripts: those of questions stand on
one line, those of choices may have several.
-/

namespace SurveyChecks

namespace Question

variable {sheet : Sheet} {columns : List String} {row : Row} {q : Question} {qs : List Question}

/-- The labels of a question are those of its row. -/
theorem ReadFrom.labels_eq (h : ReadFrom columns row q) :
    q.label = rowLabel (labelColumn? columns) row ∧
      q.workingLabel = rowWorkingLabel columns row := by
  obtain ⟨q₀, hread, hq⟩ := h
  obtain ⟨-, rfl⟩ := ofRow?_eq_some_iff.mp hread
  rw [hq]
  exact ⟨rfl, rfl⟩

theorem isSafe_labels_of_load (h : load sheet = .ok qs) (hq : q ∈ qs) :
    Label.IsSafe true q.label ∧ Label.IsSafe true q.workingLabel := by
  obtain ⟨row, -, hread⟩ := exists_row_of_mem_load h hq
  obtain ⟨hlabel, hworking⟩ := hread.labels_eq
  rw [hlabel, hworking]
  exact ⟨isSafe_rowLabel _ row, isSafe_rowWorkingLabel _ row⟩

end Question

namespace Choice

variable {sheet : Sheet} {column : String} {row : Row} {number : Nat} {c : Choice}
  {cs : List Choice}

theorem label_of_ofRow (h : ofRow column row number = .choice c) :
    c.label = Label.safe false (row.text "label") := by
  obtain ⟨-, rfl⟩ := of_ofRow_eq_choice h
  rfl

theorem isSafe_label_of_load (h : load sheet = .ok cs) (hc : c ∈ cs) :
    Label.IsSafe false c.label := by
  obtain ⟨-, rfl⟩ := load_eq_ok_iff.mp h
  obtain ⟨reading, hreading, hchoice⟩ := List.mem_filterMap.mp hc
  obtain ⟨⟨row, number⟩, -, hread⟩ := List.mem_map.mp hreading
  rw [label_of_ofRow (hread.trans (Reading.choice?_eq_some_iff.mp hchoice))]
  exact Label.isSafe_safe false _

end Choice

namespace Label

/-- Making a text safe puts, for each character in turn, a number sign for a dollar sign, nothing for
a double quote nor, on one line, for a line break, and the character itself for every other; line
breaks may as well be skipped in whole runs. So it can be done part by part, and once is enough: the
result is safe, and what is safe stays as it is. The labels of all questions that are read from a
survey sheet are safe and on one line, and those of all choices that are read from a choices sheet
are safe. -/
theorem safe_substitutes :
    (∀ oneLine s, (safe oneLine s).toList = s.toList.flatMap (substitute oneLine)) ∧
    (∀ s, (safe true s).toList = Text.withoutRuns isLineBreak (safe false s).toList) ∧
    (∀ oneLine s t, safe oneLine (s ++ t) = safe oneLine s ++ safe oneLine t) ∧
    (∀ oneLine s, safe oneLine (safe oneLine s) = safe oneLine s) ∧
    (∀ oneLine s, IsSafe oneLine (safe oneLine s)) ∧
    (∀ oneLine s, safe oneLine s = s ↔ IsSafe oneLine s) ∧
    (∀ survey qs, Question.load survey = .ok qs → ∀ q ∈ qs,
      IsSafe true q.label ∧ IsSafe true q.workingLabel) ∧
    ∀ choices cs, Choice.load choices = .ok cs → ∀ c ∈ cs, IsSafe false c.label := by
  refine ⟨toList_safe, fun s => ?_, safe_append, safe_safe, isSafe_safe,
    fun _ _ => safe_eq_self_iff, fun _ _ h _ hq => Question.isSafe_labels_of_load h hq,
    fun _ _ h _ hc => Choice.isSafe_label_of_load h hc⟩
  rw [toList_safe_true, Text.withoutRuns_eq_filter]

/-- Two questions with labels that are not safe: nothing is left of the first label for scripts. -/
def quotingSurvey : Sheet :=
  ⟨"survey", ["type", "name", "label:English", "labelStata"],
    [[("type", .text "integer"), ("name", .text "pay"),
      ("label:English", .text "Pay\r\n \"net\" in $"), ("labelStata", .text "\"\n\"")],
     [("type", .text "text"), ("name", .text "job"),
      ("label:English", .text "Job"), ("labelStata", .text "Job $1\r")]]⟩

/-- The questions of the sheet. -/
def quotingQuestions : List Question :=
  [{ name := "pay", rawType := "integer", tokens := ["integer"], label := "Pay net in #",
     workingLabel := "Pay net in #", order := 1 },
   { name := "job", rawType := "text", tokens := ["text"], label := "Job",
     workingLabel := "Job #1", order := 2 }]

/-- A choice whose label has two lines. -/
def quotingChoices : Sheet :=
  ⟨"choices", ["list_name", "name", "label"],
    [[("list_name", .text "yn"), ("name", .text "1"), ("label", .text "Yes,\n\"$5\"")]]⟩

theorem safe_substitutes_quoting :
    Question.load quotingSurvey = .ok quotingQuestions ∧
    Choice.load quotingChoices = .ok [⟨"yn", 1, "Yes,\n#5", 1⟩] ∧
    (∀ q ∈ quotingQuestions, IsSafe true q.label ∧ IsSafe true q.workingLabel) ∧
    IsSafe false "Yes,\n#5" ∧ ¬ IsSafe true "Yes,\n#5" := by
  have hquestions : Question.load quotingSurvey = .ok quotingQuestions := by decide +kernel
  have hchoices : Choice.load quotingChoices = .ok [⟨"yn", 1, "Yes,\n#5", 1⟩] := by decide +kernel
  have hlines : ¬ IsSafe true "Yes,\n#5" := by decide +kernel
  obtain ⟨-, -, -, -, -, -, hlabels, hchoice⟩ := safe_substitutes
  exact ⟨hquestions, hchoices, hlabels _ _ hquestions,
    hchoice _ _ hchoices _ (List.mem_cons_self ..), hlines⟩

end Label

end SurveyChecks
