import SurveyChecks.Form.Label
import SurveyChecks.Text.Blank

/-!
# Laws of edits

When nothing is left after trimming, when deleting characters changes nothing, and what replacing
the first occurrence of a character does.
-/

namespace SurveyChecks.Text

/-! ## Trimming -/

theorem stripEnd_eq_nil_iff {cs : List Char} : stripEnd cs = [] ↔ ∀ c ∈ cs, isBlank c := by
  induction cs with
  | nil => simp [stripEnd]
  | cons c cs ih =>
    by_cases hcs : stripEnd cs = []
    · have hblank := ih.mp hcs
      rw [stripEnd, hcs]
      by_cases hc : isBlank c
      · simpa [hc] using hblank
      · simp [hc]
    · have hnot : ¬ ∀ c ∈ cs, isBlank c := mt ih.mpr hcs
      rw [stripEnd_cons_of_ne_nil hcs]
      simp only [List.cons_ne_nil, List.forall_mem_cons, false_iff, not_and]
      exact fun _ => hnot

theorem stripChars_eq_nil_iff {cs : List Char} : stripChars cs = [] ↔ ∀ c ∈ cs, isBlank c := by
  rw [stripChars, stripEnd_eq_nil_iff]
  constructor
  · intro h c hc
    rw [← List.takeWhile_append_dropWhile (p := isBlank) (l := cs)] at hc
    rcases List.mem_append.mp hc with htake | hdrop
    · exact List.all_eq_true.mp List.all_takeWhile c htake
    · exact h c hdrop
  · exact fun h c hc => h c ((List.dropWhile_sublist _).mem hc)

/-- A text is trimmed away just when it is blank. -/
theorem strip_eq_empty_iff {s : String} : strip s = "" ↔ ∀ c ∈ s.toList, isBlank c := by
  rw [← stripChars_eq_nil_iff, ← String.toList_eq_nil_iff, strip, String.toList_ofList]

theorem strip_ne_empty_of_without {p : Char → Bool} {s : String}
    (h : strip (without p s) ≠ "") : strip s ≠ "" := by
  intro hs
  refine h (strip_eq_empty_iff.mpr fun c hc => strip_eq_empty_iff.mp hs c ?_)
  rw [without, String.toList_ofList] at hc
  exact (List.mem_filter.mp hc).1

/-! ## Words -/

theorem ne_nil_of_mem_splitWords {cs w : List Char} (h : w ∈ splitWords cs) : w ≠ [] := by
  induction cs with
  | nil => simp [splitWords] at h
  | cons c cs ih =>
    rw [splitWords.eq_def] at h
    dsimp only at h
    split at h
    · exact ih h
    · split at h
      · simp_all
      · split at h
        · rcases List.mem_cons.mp h with rfl | h
          · simp
          · exact ih h
        · -- the character is put in front of the first word
          unfold extendFirst at h
          split at h
          · simp_all
          · rename_i hws
            rcases List.mem_cons.mp h with rfl | h
            · simp
            · exact ih (hws ▸ List.mem_cons_of_mem _ h)

/-- No word is empty. -/
theorem ne_empty_of_mem_words {s w : String} (h : w ∈ words s) : w ≠ "" := by
  obtain ⟨cs, hcs, rfl⟩ := List.mem_map.mp h
  intro hempty
  have hnil : cs = [] := by simpa using congrArg String.toList hempty
  exact ne_nil_of_mem_splitWords hcs hnil

/-! ## Deleting -/

theorem without_eq_self_iff {p : Char → Bool} {s : String} :
    without p s = s ↔ ∀ c ∈ s.toList, p c = false := by
  rw [without, ← String.toList_inj, String.toList_ofList, List.filter_eq_self]
  simp only [Bool.not_eq_true']

/-! ## Replacing the first occurrence -/

theorem replaceFirstIn_of_not_mem {a b : Char} {cs : List Char} (h : a ∉ cs) :
    replaceFirstIn a b cs = cs := by
  induction cs with
  | nil => rfl
  | cons c cs ih =>
    have hc : c ≠ a := fun heq => h (heq ▸ List.mem_cons_self ..)
    have hcs : a ∉ cs := fun hin => h (List.mem_cons_of_mem _ hin)
    rw [replaceFirstIn, if_neg hc, ih hcs]

theorem mem_replaceFirstIn {a b : Char} {cs : List Char} (h : a ∈ cs) :
    b ∈ replaceFirstIn a b cs := by
  induction cs with
  | nil => simp at h
  | cons c cs ih =>
    rw [replaceFirstIn]
    by_cases hc : c = a
    · simp [hc]
    · have hcs : a ∈ cs := (List.mem_cons.mp h).resolve_left (Ne.symm hc)
      rw [if_neg hc]
      exact List.mem_cons_of_mem _ (ih hcs)

end SurveyChecks.Text
