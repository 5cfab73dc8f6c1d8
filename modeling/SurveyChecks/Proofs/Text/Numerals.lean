import SurveyChecks.Proofs.Text.Trimming
import SurveyChecks.Text.Digits

/-!
# Decimal numerals

A text that is not empty and has digits only is a canonical numeral behind zeros: it has the digits
of the number that it denotes, and the zeros in front are all that numerals of one number differ in.
-/

namespace SurveyChecks.Text

variable {c : Char} {cs : List Char} {n : Nat}

/-! ## Digits -/

theorem toNat_of_isDigit (h : isDigit c) : 48 ≤ c.toNat ∧ c.toNat ≤ 57 := by
  rw [isDigit, Bool.and_eq_true, decide_eq_true_iff, decide_eq_true_iff] at h
  exact h

theorem digitValue_lt (h : isDigit c) : digitValue c < 10 := by
  have hrange := toNat_of_isDigit h
  have hzero : '0'.toNat = 48 := rfl
  rw [digitValue, hzero]
  omega

/-- A digit is the one for its value. -/
theorem digitChar_digitValue (h : isDigit c) : (digitValue c).digitChar = c := by
  have hall : ∀ n, n ≤ 57 → 48 ≤ n → (n - 48).digitChar = Char.ofNat n := by decide
  have hrange := toNat_of_isDigit h
  rw [digitValue, show '0'.toNat = 48 from rfl, hall _ hrange.2 hrange.1, Char.ofNat_toNat]

/-- Trimming takes no digit away. -/
theorem not_isBlank_of_isDigit (h : isDigit c) : isBlank c = false := by
  have hrange := toNat_of_isDigit h
  refine Bool.eq_false_iff.mpr fun hblank => ?_
  simp only [isBlank, Bool.or_eq_true, Bool.and_eq_true, decide_eq_true_iff, beq_iff_eq] at hblank
  omega

theorem isDigit_of_mem_toDigits (h : c ∈ Nat.toDigits 10 n) : isDigit c :=
  Nat.isDigit_of_mem_toDigits (by decide) (by decide) h

/-! ## Numerals -/

/-- A text is not empty and has digits only. -/
structure IsNumeral (cs : List Char) : Prop where
  ne_nil : cs ≠ []
  digits : ∀ c ∈ cs, isDigit c

/-- A digit more is ten times the value and the digit. -/
theorem decimalValue_append_singleton (cs : List Char) (c : Char) :
    decimalValue (cs ++ [c]) = 10 * decimalValue cs + digitValue c := by
  rw [decimalValue, decimalValueFrom_append]
  rfl

/-- Zeros in front do not change the value. -/
theorem decimalValue_zeros_append (k n : Nat) :
    decimalValue (List.replicate k '0' ++ Nat.toDigits 10 n) = n := by
  show Nat.ofDigitChars 10 _ 0 = n
  rw [Nat.ofDigitChars_append, Nat.ofDigitChars_replicate_zero, Nat.mul_zero,
    Nat.ofDigitChars_ten_toDigits]

theorem isNumeral_zeros_append (k n : Nat) :
    IsNumeral (List.replicate k '0' ++ Nat.toDigits 10 n) where
  ne_nil := List.append_ne_nil_of_right_ne_nil _ Nat.toDigits_ne_nil
  digits := by
    intro c hc
    rcases List.mem_append.mp hc with hc | hc
    · rw [List.eq_of_mem_replicate hc]
      decide
    · exact isDigit_of_mem_toDigits hc

/-- A numeral is that of its value with zeros in front. -/
theorem IsNumeral.exists_zeros (h : IsNumeral cs) :
    ∃ k, cs = List.replicate k '0' ++ Nat.toDigits 10 (decimalValue cs) := by
  induction cs using List.reverseRecOn with
  | nil => exact absurd rfl h.ne_nil
  | append_singleton cs c ih =>
    have hc : isDigit c := h.digits c (by simp)
    have hlast : Nat.toDigits 10 (digitValue c) = [c] := by
      rw [Nat.toDigits_of_lt_base (digitValue_lt hc), digitChar_digitValue hc]
    rw [decimalValue_append_singleton]
    by_cases hcs : cs = []
    · refine ⟨0, ?_⟩
      have hvalue : 10 * decimalValue cs + digitValue c = digitValue c := by
        rw [hcs]
        exact Nat.zero_add _
      rw [hvalue, hlast, hcs]
      rfl
    · have hdigits : IsNumeral cs := ⟨hcs, fun d hd => h.digits d (List.mem_append_left _ hd)⟩
      obtain ⟨k, hzeros⟩ := ih hdigits
      by_cases hvalue : decimalValue cs = 0
      · -- zeros only, to which the zero of the value itself belongs
        have hall : cs = List.replicate (k + 1) '0' := by
          rw [hvalue] at hzeros
          rw [List.replicate_succ']
          exact hzeros
        refine ⟨k + 1, ?_⟩
        rw [hvalue, Nat.mul_zero, Nat.zero_add, hlast, ← hall]
      · refine ⟨k, ?_⟩
        rw [← Nat.toDigits_append_toDigits (by decide) (Nat.pos_of_ne_zero hvalue)
          (digitValue_lt hc), hlast, ← List.append_assoc, ← hzeros]

/-- The numerals of a number. -/
theorem isNumeral_iff :
    IsNumeral cs ∧ decimalValue cs = n ↔ ∃ k, cs = List.replicate k '0' ++ Nat.toDigits 10 n := by
  constructor
  · rintro ⟨h, rfl⟩
    exact h.exists_zeros
  · rintro ⟨k, rfl⟩
    exact ⟨isNumeral_zeros_append k n, decimalValue_zeros_append k n⟩

theorem IsNumeral.isTrimmed (h : IsNumeral cs) : IsTrimmed cs :=
  isTrimmed_of_isSolid fun c hc => not_isBlank_of_isDigit (h.digits c hc)

end SurveyChecks.Text
