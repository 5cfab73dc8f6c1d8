import SurveyChecks.Proofs.Text.Trimming
import SurveyChecks.Text.Lowercase

/-!
# What small letters leave alone

A character is uncased when it is no capital and no small form of one. The full lower-case mapping
neither makes nor loses such a character; blanks, dots and the characters with a meaning in scripts
are of this kind. No small form is a capital, so a text in small letters stays as it is.
-/

namespace SurveyChecks.Text

/-! ## Uncased characters -/

/-- Whether a code point is a capital of the run or one of its small forms, or lies between two. -/
def LowerRun.meets (r : LowerRun) (n : Nat) : Bool :=
  (decide (r.first ≤ n) && decide (n ≤ r.last)) ||
    (decide (r.first + r.shift ≤ (n : Int)) && decide ((n : Int) ≤ r.last + r.shift))

/-- The characters of the two exceptions of the mapping, capitals and small forms. -/
def specialLetters : List Char := ['Σ', 'σ', 'ς', 'İ', 'i', '\u0307']

/-- Whether a code point is neither a capital nor a small form. -/
def isUncasedCode (n : Nat) : Bool :=
  !(lowerRuns.any (·.meets n) || (specialLetters.map Char.toNat).contains n)

/-- Whether a character is neither a capital nor a small form. -/
def isUncased (c : Char) : Bool := isUncasedCode c.toNat

/-- The small forms of a run are characters. -/
def LowerRun.isSound (r : LowerRun) : Bool :=
  decide (0 ≤ r.first + r.shift) &&
    (decide (r.last + r.shift < 0xD800) ||
      (decide (0xE000 ≤ r.first + r.shift) && decide (r.last + r.shift < 0x110000)))

theorem isSound_lowerRuns : lowerRuns.all LowerRun.isSound = true := by decide +kernel

/-- Whether a range of code points holds neither capitals nor small forms. -/
def isUncasedRange (first last : Nat) : Bool :=
  lowerRuns.all (fun r =>
    (decide (last < r.first) || decide (r.last < first)) &&
      (decide ((last : Int) < r.first + r.shift) || decide (r.last + r.shift < (first : Int)))) &&
    specialLetters.all fun c => decide (last < c.toNat) || decide (c.toNat < first)

theorem isUncasedCode_of_range {first last n : Nat} (h : isUncasedRange first last)
    (hfirst : first ≤ n) (hlast : n ≤ last) : isUncasedCode n := by
  simp only [isUncasedRange, Bool.and_eq_true, List.all_eq_true, Bool.or_eq_true,
    decide_eq_true_eq] at h
  obtain ⟨hruns, hspecial⟩ := h
  have hmeets : lowerRuns.any (·.meets n) = false := by
    refine List.any_eq_false.mpr fun r hr => ?_
    have := hruns r hr
    simp only [LowerRun.meets, Bool.or_eq_true, Bool.and_eq_true, decide_eq_true_eq]
    omega
  have hletters : (specialLetters.map Char.toNat).contains n = false := by
    refine Bool.eq_false_iff.mpr fun hin => ?_
    obtain ⟨c, hc, hcn⟩ := List.mem_map.mp (List.contains_iff_mem.mp hin)
    have := hspecial c hc
    omega
  rw [isUncasedCode, hmeets, hletters]
  rfl

theorem isUncased_of_isBlank {c : Char} (h : isBlank c) : isUncased c := by
  have hranges : (blankRanges.all fun r => isUncasedRange r.1 r.2) = true := by decide +kernel
  obtain ⟨r, hr, hfirst, hlast⟩ := exists_range_of_isBlank h
  exact isUncasedCode_of_range (List.all_eq_true.mp hranges r hr) hfirst hlast

/-! ## The mapping -/

section Mapping

variable {c d : Char} {before after cs : List Char} {s : String}

theorem not_mem_specialLetters (h : isUncased c) : c ∉ specialLetters := by
  intro hin
  have hcontains : (specialLetters.map Char.toNat).contains c.toNat = true :=
    List.contains_iff_mem.mpr (List.mem_map_of_mem hin)
  rw [isUncased, isUncasedCode, hcontains, Bool.or_true] at h
  exact absurd h (by decide)

theorem not_meets (h : isUncased c) {r : LowerRun} (hr : r ∈ lowerRuns) : r.meets c.toNat = false := by
  refine Bool.eq_false_iff.mpr fun hmeets => ?_
  have hany : lowerRuns.any (·.meets c.toNat) = true := List.any_eq_true.mpr ⟨r, hr, hmeets⟩
  rw [isUncased, isUncasedCode, hany, Bool.true_or] at h
  exact absurd h (by decide)

theorem meets_of_covers {r : LowerRun} {n : Nat} (h : r.covers n) : r.meets n := by
  simp only [LowerRun.covers, Bool.and_eq_true] at h
  simp only [LowerRun.meets, h.1.1, h.1.2, Bool.and_self, Bool.true_or]

/-- The code point of a small form. -/
theorem toNat_lower {r : LowerRun} (hr : r ∈ lowerRuns) {n : Nat} (h : r.covers n) :
    ((r.lower n).toNat : Int) = n + r.shift ∧ 0 ≤ r.first + r.shift := by
  have hsound := List.all_eq_true.mp isSound_lowerRuns r hr
  simp only [LowerRun.isSound, Bool.and_eq_true, Bool.or_eq_true, decide_eq_true_eq] at hsound
  simp only [LowerRun.covers, Bool.and_eq_true, decide_eq_true_eq] at h
  have hvalid : (n + r.shift).toNat.isValidChar := by
    unfold Nat.isValidChar
    omega
  have hcode : (r.lower n).toNat = (n + r.shift).toNat := by
    rw [LowerRun.lower, Char.ofNat, dif_pos hvalid]
    rfl
  omega

theorem meets_toNat_lower {r : LowerRun} (hr : r ∈ lowerRuns) {n : Nat} (h : r.covers n) :
    r.meets (r.lower n).toNat := by
  obtain ⟨hcode, hpos⟩ := toNat_lower hr h
  simp only [LowerRun.covers, Bool.and_eq_true, decide_eq_true_eq] at h
  simp only [LowerRun.meets, Bool.or_eq_true, Bool.and_eq_true, decide_eq_true_eq]
  omega

/-- A character stays, or it is a capital of a run and becomes its small form. -/
theorem lowerChar_cases (c : Char) :
    lowerChar c = c ∨
      ∃ r ∈ lowerRuns, r.covers c.toNat = true ∧ lowerChar c = r.lower c.toNat := by
  unfold lowerChar
  cases hfind : lowerRuns.find? (·.covers c.toNat) with
  | none => exact Or.inl rfl
  | some r =>
    have hcovers : r.covers c.toNat = true := by simpa using List.find?_some hfind
    exact Or.inr ⟨r, List.mem_of_find?_eq_some hfind, hcovers, rfl⟩

theorem lowerChar_of_isUncased (h : isUncased c) : lowerChar c = c := by
  rcases lowerChar_cases c with hself | ⟨r, hr, hcovers, -⟩
  · exact hself
  · have hfalse := not_meets h hr
    rw [meets_of_covers hcovers] at hfalse
    contradiction

/-- No capital has an uncased small form. -/
theorem eq_of_isUncased_lowerChar (h : isUncased (lowerChar c)) : lowerChar c = c := by
  rcases lowerChar_cases c with hself | ⟨r, hr, hcovers, hlower⟩
  · exact hself
  · rw [hlower] at h
    have hfalse := not_meets h hr
    rw [meets_toNat_lower hr hcovers] at hfalse
    contradiction

theorem lowerAt_ne_nil (before : List Char) (c : Char) (after : List Char) :
    lowerAt before c after ≠ [] := by
  unfold lowerAt
  split
  · split <;> simp
  · split <;> simp

theorem lowerAt_of_isUncased (h : isUncased c) : lowerAt before c after = [c] := by
  have hnot := not_mem_specialLetters h
  simp only [specialLetters, List.mem_cons, not_or] at hnot
  obtain ⟨hsigma, -, -, hdotted, -⟩ := hnot
  rw [lowerAt, if_neg hsigma, if_neg hdotted, lowerChar_of_isUncased h]

theorem eq_of_mem_lowerAt (hd : isUncased d) (h : d ∈ lowerAt before c after) : d = c := by
  have hnot := not_mem_specialLetters hd
  simp only [specialLetters, List.mem_cons, not_or] at hnot
  obtain ⟨-, hsmall, hfinal, -, hi, hdot, -⟩ := hnot
  unfold lowerAt at h
  split at h
  · split at h
    · exact absurd (List.mem_singleton.mp h) hfinal
    · exact absurd (List.mem_singleton.mp h) hsmall
  · split at h
    · simp only [List.mem_cons, List.not_mem_nil, or_false] at h
      rcases h with h | h
      · exact absurd h hi
      · exact absurd h hdot
    · have heq : d = lowerChar c := List.mem_singleton.mp h
      rw [heq] at hd ⊢
      exact eq_of_isUncased_lowerChar hd

theorem mem_lowerAfter_iff (hd : isUncased d) : d ∈ lowerAfter before cs ↔ d ∈ cs := by
  induction cs generalizing before with
  | nil => simp [lowerAfter]
  | cons c cs ih =>
    rw [lowerAfter, List.mem_append, ih, List.mem_cons]
    refine or_congr_left ⟨eq_of_mem_lowerAt hd, fun heq => ?_⟩
    rw [heq] at hd ⊢
    simp [lowerAt_of_isUncased hd]

/-- An uncased character is in a text in small letters just when it is in the text. -/
theorem mem_toList_lower_iff (hd : isUncased d) : d ∈ (lower s).toList ↔ d ∈ s.toList := by
  rw [lower, String.toList_ofList, mem_lowerAfter_iff hd]

theorem forall_mem_lowerAfter_iff {p : Char → Prop} (hp : ∀ c, p c → isUncased c) :
    (∀ c ∈ lowerAfter before cs, p c) ↔ ∀ c ∈ cs, p c := by
  induction cs generalizing before with
  | nil => simp [lowerAfter]
  | cons c cs ih =>
    rw [lowerAfter, List.forall_mem_append, ih, List.forall_mem_cons]
    refine and_congr_left fun _ => ⟨fun h => ?_, fun h => ?_⟩
    · obtain ⟨d, hd⟩ := List.exists_mem_of_ne_nil _ (lowerAt_ne_nil before c cs)
      rw [← eq_of_mem_lowerAt (hp d (h d hd)) hd]
      exact h d hd
    · rw [lowerAt_of_isUncased (hp c h)]
      exact List.forall_mem_singleton.mpr h

/-- A text in small letters is blank just when the text is. -/
theorem forall_mem_lower_isBlank_iff :
    (∀ c ∈ (lower s).toList, isBlank c) ↔ ∀ c ∈ s.toList, isBlank c := by
  rw [lower, String.toList_ofList]
  exact forall_mem_lowerAfter_iff fun _ => isUncased_of_isBlank

end Mapping

/-! ## Small letters stay small -/

/-- No small form of the first run is a capital of the second: the small forms lie apart from these
capitals, or in the gaps between them. -/
def LowerRun.avoids (r r' : LowerRun) : Bool :=
  let first := (r.first + r.shift).toNat
  let last := (r.last + r.shift).toNat
  Nat.blt last r'.first || Nat.blt r'.last first ||
    ((r.first == r.last || r.step == 2) && r'.step == 2 && (first + r'.first) % 2 == 1)

/-- The two capitals that are exceptions of the mapping, as runs of one capital. -/
def specialCapitals : List LowerRun :=
  [⟨'Σ'.toNat, 'Σ'.toNat, 1, 0⟩, ⟨'İ'.toNat, 'İ'.toNat, 1, 0⟩]

theorem avoids_lowerRuns :
    (lowerRuns.all fun r => lowerRuns.all r.avoids && specialCapitals.all r.avoids) = true := by
  decide +kernel

section Idempotence

variable {c d : Char} {before after cs : List Char} {s : String} {r r' : LowerRun} {n : Nat}

theorem not_covers_of_avoids (hr : r ∈ lowerRuns) (h : r.covers n) (havoids : r.avoids r') :
    r'.covers (r.lower n).toNat = false := by
  obtain ⟨hcode, hpos⟩ := toNat_lower hr h
  refine Bool.eq_false_iff.mpr fun hcovers => ?_
  simp only [LowerRun.covers, Bool.and_eq_true, decide_eq_true_eq, beq_iff_eq] at h hcovers
  simp only [LowerRun.avoids, Bool.or_eq_true, Bool.and_eq_true, beq_iff_eq, Nat.blt_eq] at havoids
  obtain ⟨⟨hfirst, hlast⟩, hstep⟩ := h
  obtain ⟨⟨hfirst', hlast'⟩, hstep'⟩ := hcovers
  rcases havoids with (hbelow | habove) | ⟨⟨hgap | hgap, hgap'⟩, hodd⟩
  · omega
  · omega
  · rw [hgap'] at hstep'
    omega
  · rw [hgap] at hstep
    rw [hgap'] at hstep'
    omega

/-- A character that is the small form of itself, and no exception of the mapping. -/
structure IsSmall (c : Char) : Prop where
  lowerChar_eq : lowerChar c = c
  notSpecial : c ≠ 'Σ' ∧ c ≠ 'İ'

theorem isSmall_of_not_covers (h : ∀ r ∈ lowerRuns, r.covers c.toNat = false)
    (h' : ∀ r ∈ specialCapitals, r.covers c.toNat = false) : IsSmall c where
  lowerChar_eq := by
    rcases lowerChar_cases c with hself | ⟨r, hr, hcovers, -⟩
    · exact hself
    · rw [h r hr] at hcovers
      contradiction
  notSpecial := by
    constructor
    · rintro rfl
      exact absurd (h' _ (List.mem_cons_self ..)) (by decide)
    · rintro rfl
      exact absurd (h' _ (List.mem_cons_of_mem _ (List.mem_cons_self ..))) (by decide)

theorem isSmall_lower (hr : r ∈ lowerRuns) (h : r.covers n) : IsSmall (r.lower n) := by
  have havoids := List.all_eq_true.mp avoids_lowerRuns r hr
  rw [Bool.and_eq_true, List.all_eq_true, List.all_eq_true] at havoids
  refine isSmall_of_not_covers (fun r' hr' => ?_) (fun r' hr' => ?_)
  · exact not_covers_of_avoids hr h (havoids.1 r' hr')
  · exact not_covers_of_avoids hr h (havoids.2 r' hr')

theorem isSmall_lowerChar (hsigma : c ≠ 'Σ') (hdotted : c ≠ 'İ') : IsSmall (lowerChar c) := by
  rcases lowerChar_cases c with hself | ⟨r, hr, hcovers, hlower⟩
  · rw [hself]
    exact ⟨hself, hsigma, hdotted⟩
  · rw [hlower]
    exact isSmall_lower hr hcovers

theorem isSmall_of_mem_lowerAt (h : d ∈ lowerAt before c after) : IsSmall d := by
  have hruns : (lowerRuns ++ specialCapitals).all (fun r =>
      ['σ', 'ς', 'i', '\u0307'].all fun d => !r.covers d.toNat) = true := by
    decide +kernel
  have hsmall : ∀ d ∈ ['σ', 'ς', 'i', '\u0307'], IsSmall d := by
    intro d hd
    have hnone : ∀ r ∈ lowerRuns ++ specialCapitals, r.covers d.toNat = false := by
      intro r hr
      simpa using List.all_eq_true.mp (List.all_eq_true.mp hruns r hr) d hd
    exact isSmall_of_not_covers (fun r hr => hnone r (List.mem_append_left _ hr))
      fun r hr => hnone r (List.mem_append_right _ hr)
  unfold lowerAt at h
  split at h
  · split at h
    · exact hsmall d (by simp [List.mem_singleton.mp h])
    · exact hsmall d (by simp [List.mem_singleton.mp h])
  · rename_i hsigma
    split at h
    · simp only [List.mem_cons, List.not_mem_nil, or_false] at h
      rcases h with rfl | rfl
      · exact hsmall _ (by simp)
      · exact hsmall _ (by simp)
    · rename_i hdotted
      rw [List.mem_singleton.mp h]
      exact isSmall_lowerChar hsigma hdotted

theorem isSmall_of_mem_lowerAfter (h : d ∈ lowerAfter before cs) : IsSmall d := by
  induction cs generalizing before with
  | nil => simp [lowerAfter] at h
  | cons c cs ih =>
    rw [lowerAfter, List.mem_append] at h
    rcases h with h | h
    · exact isSmall_of_mem_lowerAt h
    · exact ih h

theorem lowerAfter_of_isSmall (h : ∀ c ∈ cs, IsSmall c) : lowerAfter before cs = cs := by
  induction cs generalizing before with
  | nil => rfl
  | cons c cs ih =>
    obtain ⟨hc, hcs⟩ := List.forall_mem_cons.mp h
    rw [lowerAfter, ih hcs, lowerAt, if_neg hc.notSpecial.1, if_neg hc.notSpecial.2,
      hc.lowerChar_eq, List.singleton_append]

/-- A text in small letters stays as it is. -/
@[simp] theorem lower_lower (s : String) : lower (lower s) = lower s := by
  rw [← String.toList_inj, lower, lower, String.toList_ofList, String.toList_ofList]
  exact lowerAfter_of_isSmall fun c hc => isSmall_of_mem_lowerAfter hc

end Idempotence

/-! ## Blanks at the ends -/

section Ends

variable {c d : Char} {before after cs : List Char} {s : String}

theorem isBlank_of_mem_lowerAt (h : d ∈ lowerAt before c after) : isBlank d = isBlank c := by
  by_cases hd : isBlank d
  · rw [eq_of_mem_lowerAt (isUncased_of_isBlank hd) h]
  · by_cases hc : isBlank c
    · rw [lowerAt_of_isUncased (isUncased_of_isBlank hc)] at h
      rw [List.mem_singleton.mp h]
    · rw [Bool.eq_false_iff.mpr hd, Bool.eq_false_iff.mpr hc]

theorem exists_lowerAfter_concat (before cs : List Char) (c : Char) :
    ∃ ds before', lowerAfter before (cs ++ [c]) = ds ++ lowerAt before' c [] := by
  induction cs generalizing before with
  | nil => exact ⟨[], before, by simp [lowerAfter]⟩
  | cons d cs ih =>
    obtain ⟨ds, before', heq⟩ := ih (d :: before)
    refine ⟨lowerAt before d (cs ++ [c]) ++ ds, before', ?_⟩
    rw [List.cons_append, lowerAfter, heq, List.append_assoc]

/-- A text in small letters is trimmed just when the text is. -/
theorem isTrimmed_lowerAfter_iff : IsTrimmed (lowerAfter before cs) ↔ IsTrimmed cs := by
  have hfirst : (∀ d ∈ (lowerAfter before cs).head?, isBlank d = false) ↔
      ∀ d ∈ cs.head?, isBlank d = false := by
    cases cs with
    | nil => rfl
    | cons c cs =>
      obtain ⟨d, ds, hlower⟩ := List.exists_cons_of_ne_nil (lowerAt_ne_nil before c cs)
      have hblank : isBlank d = isBlank c :=
        isBlank_of_mem_lowerAt (hlower ▸ List.mem_cons_self ..)
      simp [lowerAfter, hlower, hblank]
  have hlast : (∀ d ∈ (lowerAfter before cs).getLast?, isBlank d = false) ↔
      ∀ d ∈ cs.getLast?, isBlank d = false := by
    rcases List.eq_nil_or_concat' cs with rfl | ⟨cs, c, rfl⟩
    · rfl
    · obtain ⟨ds, before', heq⟩ := exists_lowerAfter_concat before cs c
      rcases List.eq_nil_or_concat' (lowerAt before' c []) with hnil | ⟨es, d, hlower⟩
      · exact absurd hnil (lowerAt_ne_nil before' c [])
      · have hblank : isBlank d = isBlank c :=
          isBlank_of_mem_lowerAt (hlower ▸ List.mem_append_right es (List.mem_singleton_self d))
        rw [heq, hlower]
        simp [← List.append_assoc, hblank]
  constructor
  · intro h
    exact ⟨hfirst.mp h.first, hlast.mp h.last⟩
  · intro h
    exact ⟨hfirst.mpr h.first, hlast.mpr h.last⟩

theorem isTrimmed_lower_iff : IsTrimmed (lower s).toList ↔ IsTrimmed s.toList := by
  rw [lower, String.toList_ofList, isTrimmed_lowerAfter_iff]

end Ends

end SurveyChecks.Text
