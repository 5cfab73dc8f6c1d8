import SurveyChecks.PathName

/-!
# Lines

A text made of lines with line feeds between them falls into these lines again, when none of them
holds a line feed of its own.
-/

namespace SurveyChecks

namespace Text

/-- The text holds no line feed. -/
def IsOneLine (s : String) : Prop := '\n' ∉ s.toList

instance : DecidablePred IsOneLine := fun s => inferInstanceAs (Decidable ('\n' ∉ s.toList))

/-! ## Texts of one line -/

section OneLine

variable {s t sep : String} {ss : List String}

/-- Of a text that is written out the characters decide. -/
theorem isOneLine_ofList {cs : List Char} (h : '\n' ∉ cs) : IsOneLine (String.ofList cs) := by
  rwa [IsOneLine, String.toList_ofList]

@[simp] theorem isOneLine_append : IsOneLine (s ++ t) ↔ IsOneLine s ∧ IsOneLine t := by
  simp [IsOneLine, not_or]

theorem IsOneLine.of_subset (h : IsOneLine t) (hs : ∀ c ∈ s.toList, c ∈ t.toList) : IsOneLine s :=
  fun hin => h (hs _ hin)

/-- A character of a joined text stands in the separator or in one of the pieces. -/
theorem mem_of_mem_intercalate {c : Char} (h : c ∈ (sep.intercalate ss).toList) :
    c ∈ sep.toList ∨ ∃ s ∈ ss, c ∈ s.toList := by
  induction ss with
  | nil => simp at h
  | cons s ss ih =>
    cases ss with
    | nil => exact Or.inr ⟨s, List.mem_singleton_self s, by simpa using h⟩
    | cons s' ss =>
      rw [String.intercalate_cons_cons, String.toList_append, String.toList_append] at h
      rcases List.mem_append.mp h with h | h
      · rcases List.mem_append.mp h with h | h
        · exact Or.inr ⟨s, List.mem_cons_self .., h⟩
        · exact Or.inl h
      · exact (ih h).imp_right fun ⟨t, ht, hc⟩ => ⟨t, List.mem_cons_of_mem _ ht, hc⟩

/-- Joining makes no line feed that neither the separator nor a piece has. -/
theorem isOneLine_intercalate (hsep : IsOneLine sep) (h : ∀ s ∈ ss, IsOneLine s) :
    IsOneLine (sep.intercalate ss) := by
  intro hin
  rcases mem_of_mem_intercalate hin with hin | ⟨s, hs, hin⟩
  · exact hsep hin
  · exact h s hs hin

theorem IsOneLine.without {p : Char → Bool} (h : IsOneLine s) : IsOneLine (without p s) := by
  refine h.of_subset fun c hc => ?_
  rw [Text.without, String.toList_ofList] at hc
  exact (List.mem_filter.mp hc).1

theorem isOneLine_natRepr (n : Nat) : IsOneLine (Nat.repr n) := by
  intro hin
  rw [Nat.toList_repr] at hin
  have := Nat.isDigit_of_mem_toDigits (by decide) (by decide) hin
  revert this
  decide

/-- The numeral of an integer has digits and a sign only. -/
theorem isOneLine_toString (i : Int) : IsOneLine (toString i) := by
  rw [Int.toString_eq_repr, Int.repr_eq_if]
  by_cases h : 0 ≤ i
  · rw [if_pos h]
    exact isOneLine_natRepr _
  · rw [if_neg h, isOneLine_append]
    exact ⟨by decide, isOneLine_natRepr _⟩

end OneLine

/-! ## Splitting -/

/-- Splitting text is the splitting of lists, of which the library knows that it undoes joining. -/
theorem splitAt_eq_splitOn (sep : Char) (cs : List Char) : splitAt sep cs = cs.splitOn sep := by
  induction cs with
  | nil => rfl
  | cons c cs ih =>
    rw [splitAt, List.splitOn_cons_eq_if_modifyHead, ih]
    by_cases hc : c = sep
    · simp [hc]
    · obtain ⟨w, ws, hw⟩ := List.exists_cons_of_ne_nil (List.splitOn_ne_nil sep cs)
      simp [hc, hw]

/-- No piece has a character that was not there before. -/
theorem mem_of_mem_splitAt {sep c : Char} {cs piece : List Char} (hpiece : piece ∈ splitAt sep cs)
    (hc : c ∈ piece) : c ∈ cs := by
  induction cs generalizing piece with
  | nil =>
    obtain rfl : piece = [] := by simpa [splitAt] using hpiece
    exact hc
  | cons a cs ih =>
    rw [splitAt] at hpiece
    by_cases ha : a = sep
    · rw [if_pos ha] at hpiece
      rcases List.mem_cons.mp hpiece with rfl | hpiece
      · simp at hc
      · exact List.mem_cons_of_mem _ (ih hpiece hc)
    · obtain ⟨w, ws, hw⟩ := List.exists_cons_of_ne_nil (splitAt_ne_nil sep cs)
      rw [if_neg ha, hw] at hpiece
      rcases List.mem_cons.mp hpiece with rfl | hpiece
      · rcases List.mem_cons.mp hc with rfl | hc
        · exact List.mem_cons_self ..
        · exact List.mem_cons_of_mem _ (ih (hw ▸ List.mem_cons_self ..) hc)
      · exact List.mem_cons_of_mem _ (ih (hw ▸ List.mem_cons_of_mem _ hpiece) hc)

/-- Lines that are joined by line feeds are found again, when none has a line feed of its own. There
must be a line, since even the empty text has one. -/
theorem lines_intercalate {ls : List String} (hne : ls ≠ []) (h : ∀ l ∈ ls, IsOneLine l) :
    lines ("\n".intercalate ls) = ls := by
  have hsplit : splitAt '\n' ("\n".intercalate ls).toList = ls.map String.toList := by
    rw [splitAt_eq_splitOn, String.toList_intercalate]
    refine List.splitOn_intercalate '\n' ?_ (by simpa using hne)
    simpa [IsOneLine] using h
  rw [lines, hsplit, List.map_map]
  simp [Function.comp_def]

end Text

/-! ## Names in paths -/

namespace PathName

open Text

theorem mem_of_mem_stemOf {c : Char} {component : List Char} (h : c ∈ stemOf component) :
    c ∈ component := by
  simp only [stemOf] at h
  cases hdrop : component.reverse.dropWhile (· != '.') with
  | nil => simpa [hdrop] using h
  | cons x stem =>
    have hstem : ∀ c ∈ stem, c ∈ component := fun c hc => by
      have hin : c ∈ component.reverse.dropWhile (· != '.') := hdrop ▸ List.mem_cons_of_mem _ hc
      exact List.mem_reverse.mp ((List.dropWhile_sublist _).mem hin)
    rw [hdrop] at h
    dsimp only at h
    split at h
    · exact h
    · exact hstem c (List.mem_reverse.mp h)

/-- The last component of a path is a piece of it. -/
theorem mem_of_mem_last {c : Char} {path : String} (h : c ∈ last path) : c ∈ path.toList := by
  unfold last at h
  cases hlast : (components path).getLast? with
  | none => simp [hlast] at h
  | some component =>
    rw [hlast, Option.getD_some] at h
    have hin : component ∈ splitAt '/' path.toList :=
      (List.mem_filter.mp (List.mem_filter.mp (List.mem_of_getLast? hlast)).1).1
    exact mem_of_mem_splitAt hin h

theorem isOneLine_stem {path : String} (h : IsOneLine path) : IsOneLine (stem path) := by
  refine h.of_subset fun c hc => ?_
  rw [stem, String.toList_ofList] at hc
  exact mem_of_mem_last (mem_of_mem_stemOf hc)

end PathName

end SurveyChecks
