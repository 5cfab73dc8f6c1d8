import Mathlib.Data.List.DropRight
import SurveyChecks.Proofs.Text.Words

/-!
# Trimmed texts

A text is trimmed when no blank stands at either end. Trimming takes blanks away from both ends and
nothing else, its result is trimmed, and a text that is trimmed already is left as it is. Deleting a
character from a trimmed text may uncover a blank; it does not when no blank stands beside that
character.
-/

namespace SurveyChecks.Text

variable {c d : Char} {cs bs bs' : List Char} {s : String}

/-! ## Trimming -/

/-- Neither the first nor the last character is blank. -/
structure IsTrimmed (cs : List Char) : Prop where
  first : ∀ c ∈ cs.head?, isBlank c = false
  last : ∀ c ∈ cs.getLast?, isBlank c = false

theorem isTrimmed_iff_all :
    (cs.head?.all (!isBlank ·) && cs.getLast?.all (!isBlank ·)) = true ↔ IsTrimmed cs := by
  rw [Bool.and_eq_true, Option.all_eq_true, Option.all_eq_true]
  simp only [Bool.not_eq_true']
  exact ⟨fun h => ⟨h.1, h.2⟩, fun h => ⟨h.first, h.last⟩⟩

instance : DecidablePred IsTrimmed := fun _ => decidable_of_iff _ isTrimmed_iff_all

theorem stripEnd_concat (hc : isBlank c = false) (cs : List Char) :
    stripEnd (cs ++ [c]) = cs ++ [c] := by
  induction cs with
  | nil => simp [stripEnd, hc]
  | cons d cs ih =>
    have hne : stripEnd (cs ++ [c]) ≠ [] := by simp [ih]
    rw [List.cons_append, stripEnd_cons_of_ne_nil hne, ih]

theorem stripEnd_eq_rdropWhile (cs : List Char) : stripEnd cs = cs.rdropWhile isBlank := by
  induction cs using List.reverseRecOn with
  | nil => rfl
  | append_singleton cs c ih =>
    cases hc : isBlank c with
    | true =>
      rw [List.rdropWhile_concat_pos _ _ _ hc, ← ih]
      exact stripEnd_append_blanks (by simpa using hc) cs
    | false =>
      rw [List.rdropWhile_concat_neg _ _ _ (by simp [hc])]
      exact stripEnd_concat hc cs

theorem isTrimmed_stripChars (cs : List Char) : IsTrimmed (stripChars cs) where
  first _ hc := isBlank_of_head?_stripChars hc
  last c hc := by
    rw [stripChars, stripEnd_eq_rdropWhile] at hc
    obtain ⟨hne, rfl⟩ := List.mem_getLast?_eq_getLast hc
    simpa using List.rdropWhile_last_not isBlank _ hne

/-- Blanks around a trimmed text are all that is taken away. -/
theorem stripChars_append (hbs : ∀ c ∈ bs, isBlank c) (hbs' : ∀ c ∈ bs', isBlank c)
    (h : IsTrimmed cs) : stripChars (bs ++ (cs ++ bs')) = cs := by
  rw [stripChars, List.dropWhile_append_of_pos hbs]
  cases cs with
  | nil =>
    rw [List.nil_append, List.dropWhile_eq_nil_iff.mpr hbs']
    rfl
  | cons c cs =>
    have hc : isBlank c = false := h.first c rfl
    rw [List.cons_append, List.dropWhile_cons_of_neg (by simp [hc]), ← List.cons_append,
      stripEnd_append_blanks hbs', stripEnd_eq_rdropWhile, List.rdropWhile_eq_self_iff]
    intro hne
    simpa using h.last _ (List.getLast?_eq_some_getLast hne)

/-- Trimming leaves a text as it is just when the text is trimmed. -/
theorem stripChars_eq_self_iff : stripChars cs = cs ↔ IsTrimmed cs := by
  constructor
  · intro h
    exact h ▸ isTrimmed_stripChars cs
  · intro h
    have hnone : ∀ c ∈ ([] : List Char), isBlank c := by simp
    simpa using stripChars_append hnone hnone h

theorem strip_eq_self_iff : strip s = s ↔ IsTrimmed s.toList := by
  rw [strip, ← String.toList_inj, String.toList_ofList, stripChars_eq_self_iff]

theorem isTrimmed_strip (s : String) : IsTrimmed (strip s).toList := by
  rw [strip, String.toList_ofList]
  exact isTrimmed_stripChars s.toList

@[simp] theorem strip_strip (s : String) : strip (strip s) = strip s :=
  strip_eq_self_iff.mpr (isTrimmed_strip s)

/-- A text is its trimmed text with blanks around it. -/
theorem exists_eq_append_stripChars (cs : List Char) :
    ∃ bs bs', (∀ c ∈ bs, isBlank c) ∧ (∀ c ∈ bs', isBlank c) ∧ cs = bs ++ (stripChars cs ++ bs') := by
  refine ⟨cs.takeWhile isBlank, (cs.dropWhile isBlank).rtakeWhile isBlank, ?_, ?_, ?_⟩
  · intro c hc
    exact List.all_eq_true.mp List.all_takeWhile c hc
  · intro c hc
    exact List.mem_rtakeWhile_imp hc
  · rw [stripChars, stripEnd_eq_rdropWhile, List.rdropWhile_append_rtakeWhile,
      List.takeWhile_append_dropWhile]

/-- Only blanks are lost by trimming. -/
theorem mem_stripChars_of_not_blank (hc : c ∈ cs) (hsolid : isBlank c = false) :
    c ∈ stripChars cs := by
  obtain ⟨bs, bs', hbs, hbs', heq⟩ := exists_eq_append_stripChars cs
  rw [heq, List.mem_append, List.mem_append] at hc
  rcases hc with hc | hc | hc
  · exact absurd (hsolid.symm.trans (hbs c hc)) (by decide)
  · exact hc
  · exact absurd (hsolid.symm.trans (hbs' c hc)) (by decide)

theorem isTrimmed_of_isSolid (h : IsSolid cs) : IsTrimmed cs where
  first c hc := h c (List.mem_of_mem_head? hc)
  last c hc := h c (List.mem_of_mem_getLast? hc)

/-- A trimmed text that is not empty has a character that is not blank. -/
theorem IsTrimmed.exists_mem (h : IsTrimmed cs) (hne : cs ≠ []) : ∃ c ∈ cs, isBlank c = false := by
  obtain ⟨c, cs, rfl⟩ := List.exists_cons_of_ne_nil hne
  exact ⟨c, List.mem_cons_self .., h.first c rfl⟩

end SurveyChecks.Text
