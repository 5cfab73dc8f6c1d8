import SurveyChecks.Proofs.Text.Edit
import SurveyChecks.Text.WordSet

/-!
# Laws of words

A text is cut into words at its blanks, so blanks around it are immaterial, and a blank between two
texts separates their words. A blank also ends a word for the class of word characters.
-/

namespace SurveyChecks.Text

/-! ## Blanks -/

/-- The ranges of the blanks. -/
def blankRanges : List (Nat × Nat) :=
  [(0x9, 0xD), (0x1C, 0x20), (0x85, 0x85), (0xA0, 0xA0), (0x1680, 0x1680), (0x2000, 0x200A),
    (0x2028, 0x2029), (0x202F, 0x202F), (0x205F, 0x205F), (0x3000, 0x3000)]

theorem exists_range_of_isBlank {c : Char} (h : isBlank c) :
    ∃ r ∈ blankRanges, r.1 ≤ c.toNat ∧ c.toNat ≤ r.2 := by
  simp only [isBlank, Bool.or_eq_true, Bool.and_eq_true, decide_eq_true_eq, beq_iff_eq] at h
  simp only [blankRanges, List.mem_cons, List.not_mem_nil, or_false, or_and_right, exists_or,
    exists_eq_left]
  omega

/-- No blank is a word character. -/
theorem not_wordChar_of_isBlank {c : Char} (h : isBlank c) : wordChars.contains c = false := by
  have hcodes : ∀ r ∈ blankRanges, ∀ n ∈ List.range' r.1 (r.2 + 1 - r.1),
      CharSet.inside wordChars.boundaries n = false := by
    decide +kernel
  obtain ⟨r, hr, hfirst, hlast⟩ := exists_range_of_isBlank h
  exact hcodes r hr c.toNat (List.mem_range'_1.mpr (by omega))

/-! ## Words one by one -/

section Words

variable {c d : Char} {cs w bs x y : List Char} {ws : List (List Char)}

/-- A list of characters none of which is blank. -/
def IsSolid (cs : List Char) : Prop := ∀ c ∈ cs, isBlank c = false

instance : DecidablePred IsSolid := fun cs =>
  decidable_of_iff (cs.all fun c => !isBlank c) (by simp [IsSolid])

theorem splitWords_cons_blank (hc : isBlank c = false) (hd : isBlank d) :
    splitWords (c :: d :: cs) = [c] :: splitWords (d :: cs) := by
  rw [splitWords.eq_def]
  simp [hc, hd]

theorem splitWords_cons_cons (hc : isBlank c = false) (hd : isBlank d = false) :
    splitWords (c :: d :: cs) = extendFirst c (splitWords (d :: cs)) := by
  rw [splitWords.eq_def]
  simp [hc, hd]

theorem splitWords_singleton (hc : isBlank c = false) : splitWords [c] = [[c]] := by
  rw [splitWords.eq_def]
  simp [hc]

/-- The first word of a text that starts with it, and the words of what is left. -/
theorem splitWords_cons_of_not_blank (hc : isBlank c = false) :
    splitWords (c :: cs) =
      (c :: cs.takeWhile (!isBlank ·)) :: splitWords (cs.dropWhile (!isBlank ·)) := by
  induction cs generalizing c with
  | nil => exact splitWords_singleton hc
  | cons d cs ih =>
    cases hd : isBlank d with
    | true => simp [splitWords_cons_blank hc hd, hd]
    | false => simp [splitWords_cons_cons hc hd, ih hd, hd, extendFirst]

theorem splitWords_eq_nil_iff : splitWords cs = [] ↔ ∀ c ∈ cs, isBlank c := by
  induction cs with
  | nil => simp [splitWords]
  | cons c cs ih =>
    cases hc : isBlank c with
    | true => simp [splitWords_cons_of_blank hc, ih, hc]
    | false => simp [splitWords_cons_of_not_blank hc, hc]

theorem splitWords_dropWhile (cs : List Char) : splitWords (cs.dropWhile isBlank) = splitWords cs := by
  induction cs with
  | nil => rfl
  | cons c cs ih =>
    cases hc : isBlank c with
    | true => rw [List.dropWhile_cons_of_pos hc, ih, splitWords_cons_of_blank hc]
    | false => rw [List.dropWhile_cons_of_neg (by simp [hc])]

/-- The first word of a text goes on up to a blank. -/
theorem splitWords_append_rest (hw : IsSolid w) (hne : w ≠ []) (x : List Char) :
    splitWords (w ++ x) =
      (w ++ x.takeWhile (!isBlank ·)) :: splitWords (x.dropWhile (!isBlank ·)) := by
  obtain ⟨c, w, rfl⟩ := List.exists_cons_of_ne_nil hne
  obtain ⟨hc, hw⟩ := List.forall_mem_cons.mp hw
  rw [List.cons_append, splitWords_cons_of_not_blank hc,
    List.takeWhile_append_of_pos (by simpa using hw),
    List.dropWhile_append_of_pos (by simpa using hw)]
  rfl

/-- A word and the words of what follows it, when that does not go on with the word. -/
theorem splitWords_append (hw : IsSolid w) (hne : w ≠ []) (hx : ∀ c ∈ x.head?, isBlank c) :
    splitWords (w ++ x) = w :: splitWords x := by
  rw [splitWords_append_rest hw hne]
  cases x with
  | nil => simp
  | cons d x => simp [hx d (by simp)]

theorem isBlank_of_head?_dropWhile (h : c ∈ (cs.dropWhile isBlank).head?) : isBlank c = false := by
  have hnot := List.head?_dropWhile_not isBlank cs
  rw [Option.mem_def.mp h] at hnot
  exact hnot

theorem isBlank_of_head?_dropWhile_not (h : c ∈ (cs.dropWhile (!isBlank ·)).head?) : isBlank c := by
  have hnot := List.head?_dropWhile_not (!isBlank ·) cs
  rw [Option.mem_def.mp h] at hnot
  simpa using hnot

/-- The first word stands behind blanks, and before a blank or the end. -/
theorem exists_of_splitWords_eq_cons (h : splitWords cs = w :: ws) :
    ∃ gap rest, (∀ c ∈ gap, isBlank c) ∧ cs = gap ++ (w ++ rest) ∧ splitWords rest = ws ∧
      ∀ c ∈ rest.head?, isBlank c := by
  rw [← splitWords_dropWhile] at h
  cases hd : cs.dropWhile isBlank with
  | nil => simp [hd, splitWords] at h
  | cons c d =>
    have hhead : c ∈ (cs.dropWhile isBlank).head? := by simp [hd]
    have hc : isBlank c = false := isBlank_of_head?_dropWhile hhead
    rw [hd, splitWords_cons_of_not_blank hc, List.cons.injEq] at h
    obtain ⟨rfl, rfl⟩ := h
    refine ⟨cs.takeWhile isBlank, d.dropWhile (!isBlank ·),
      fun a ha => List.all_eq_true.mp List.all_takeWhile a ha, ?_, rfl,
      fun a ha => isBlank_of_head?_dropWhile_not ha⟩
    rw [List.cons_append, List.takeWhile_append_dropWhile, ← hd, List.takeWhile_append_dropWhile]

/-! ## Trimming -/

theorem stripEnd_append_blanks (hbs : ∀ c ∈ bs, isBlank c) (x : List Char) :
    stripEnd (x ++ bs) = stripEnd x := by
  induction x with
  | nil => exact stripEnd_eq_nil_iff.mpr hbs
  | cons c x ih => rw [List.cons_append, stripEnd, stripEnd, ih]

theorem stripEnd_of_isSolid (hw : IsSolid w) : stripEnd w = w := by
  induction w with
  | nil => rfl
  | cons c w ih =>
    obtain ⟨hc, hw⟩ := List.forall_mem_cons.mp hw
    rw [stripEnd, ih hw]
    cases w with
    | nil => simp [hc]
    | cons d w => rfl

/-- A character that is not blank starts a text with the same words before texts that start alike
and have the same words. -/
theorem splitWords_cons_congr (hc : isBlank c = false) (hhead : x.head? = y.head?)
    (h : splitWords x = splitWords y) : splitWords (c :: x) = splitWords (c :: y) := by
  cases x with
  | nil =>
    have hy : y = [] := by simpa using hhead.symm
    rw [hy]
  | cons d x =>
    obtain ⟨y, rfl⟩ := List.head?_eq_some_iff.mp hhead.symm
    cases hd : isBlank d with
    | true => rw [splitWords_cons_blank hc hd, splitWords_cons_blank hc hd, h]
    | false => rw [splitWords_cons_cons hc hd, splitWords_cons_cons hc hd, h]

theorem head?_stripEnd (h : stripEnd cs ≠ []) : (stripEnd cs).head? = cs.head? := by
  cases cs with
  | nil => rfl
  | cons c cs =>
    rw [stripEnd] at h ⊢
    split
    · rename_i hcs
      rw [hcs] at h
      by_cases hc : isBlank c
      · simp [hc] at h
      · simp [hc]
    · rfl

theorem splitWords_stripEnd (cs : List Char) : splitWords (stripEnd cs) = splitWords cs := by
  induction cs with
  | nil => rfl
  | cons c cs ih =>
    by_cases hcs : stripEnd cs = []
    · have hnil : splitWords cs = [] := splitWords_eq_nil_iff.mpr (stripEnd_eq_nil_iff.mp hcs)
      rw [stripEnd, hcs]
      cases hc : isBlank c with
      | true => rw [splitWords_cons_of_blank hc, hnil, if_pos rfl, splitWords]
      | false =>
        have hhead : ∀ d ∈ cs.head?, isBlank d := fun d hd =>
          stripEnd_eq_nil_iff.mp hcs d (List.mem_of_mem_head? hd)
        have hcons : splitWords ([c] ++ cs) = [c] :: splitWords cs :=
          splitWords_append (by simpa [IsSolid] using hc) (by simp) hhead
        rw [List.singleton_append, hnil] at hcons
        rw [hcons]
        exact splitWords_singleton hc
    · rw [stripEnd_cons_of_ne_nil hcs]
      cases hc : isBlank c with
      | true => rw [splitWords_cons_of_blank hc, splitWords_cons_of_blank hc, ih]
      | false => exact splitWords_cons_congr hc (head?_stripEnd hcs) ih

theorem words_strip (s : String) : words (strip s) = words s := by
  rw [words, words, strip, String.toList_ofList, stripChars, splitWords_stripEnd,
    splitWords_dropWhile]

/-- A text that has been trimmed does not start with a blank. -/
theorem isBlank_of_head?_stripChars (h : c ∈ (stripChars cs).head?) : isBlank c = false := by
  unfold stripChars at h
  have hne : stripEnd (cs.dropWhile isBlank) ≠ [] := by
    intro hnil
    simp [hnil] at h
  rw [head?_stripEnd hne] at h
  exact isBlank_of_head?_dropWhile h

/-- A text is one word when trimmed just when it has that word only. -/
theorem stripChars_eq_iff (hw : IsSolid w) (hne : w ≠ []) :
    stripChars cs = w ↔ splitWords cs = [w] := by
  constructor
  · intro h
    have hsplit := splitWords_append hw hne (x := []) (by simp)
    rw [List.append_nil] at hsplit
    rw [← splitWords_dropWhile, ← splitWords_stripEnd, ← stripChars, h, hsplit]
    rfl
  · intro h
    obtain ⟨gap, rest, hgap, rfl, hrest, -⟩ := exists_of_splitWords_eq_cons h
    have hrest := splitWords_eq_nil_iff.mp hrest
    obtain ⟨c, w, rfl⟩ := List.exists_cons_of_ne_nil hne
    have hc : isBlank c = false := hw c (List.mem_cons_self ..)
    rw [stripChars, List.dropWhile_append_of_pos hgap, List.cons_append,
      List.dropWhile_cons_of_neg (by simp [hc]), ← List.cons_append,
      stripEnd_append_blanks hrest, stripEnd_of_isSolid hw]

theorem map_toList_words (s : String) : (words s).map String.toList = splitWords s.toList := by
  rw [words, List.map_map]
  exact List.map_id'' (fun _ => String.toList_ofList) _

theorem strip_eq_iff {s t : String} (ht : IsSolid t.toList) (hne : t ≠ "") :
    strip s = t ↔ words s = [t] := by
  have hnil : t.toList ≠ [] := by simpa using hne
  have hstrip : strip s = t ↔ stripChars s.toList = t.toList := by
    rw [strip, ← String.toList_inj, String.toList_ofList]
  rw [hstrip, stripChars_eq_iff ht hnil, ← map_toList_words]
  constructor
  · intro h
    obtain ⟨t', ht', heq⟩ := List.map_eq_singleton_iff.mp h
    rw [ht', String.toList_inj.mp heq]
  · intro h
    rw [h]
    rfl

end Words

end SurveyChecks.Text
