import Mathlib.Algebra.Order.Field.Rat
import Mathlib.Data.Nat.Cast.Field
import SurveyChecks.Binary64.Text

/-!
# Values of binary64 numbers

The rational number that a finite binary64 number is. The integer of a number is its value when that
is one. The text of a number shows that it is no integer numeral, by a point, an exponent or a name.
-/

namespace SurveyChecks.Binary64

variable {x : Binary64} {negative : Bool} {s : Nat} {e i : Int}

/-! ## Values -/

/-- The rational number of a sign, a significand and an exponent. -/
def signedValue (negative : Bool) (significand : Nat) (exponent : Int) : ℚ :=
  if negative then -(significand * (2 : ℚ) ^ exponent) else significand * (2 : ℚ) ^ exponent

/-- The rational number that a finite number is. -/
def value? : Binary64 → Option ℚ
  | .finite negative significand exponent => some (signedValue negative significand exponent)
  | _ => none

theorem ratio_snd_pos (s : Nat) (e : Int) : 0 < (ratio s e).2 := by
  unfold ratio
  by_cases he : e < 0
  · rw [if_pos he]
    exact Nat.pow_pos (by decide)
  · rw [if_neg he]
    exact Nat.one_pos

/-- The quotient of a magnitude is its rational number. -/
theorem ratio_eq (s : Nat) (e : Int) : ((ratio s e).1 : ℚ) / (ratio s e).2 = s * (2 : ℚ) ^ e := by
  unfold ratio
  by_cases he : e < 0
  · have hpow : (2 : ℚ) ^ e = ((2 : ℚ) ^ (-e).toNat)⁻¹ := by
      rw [← zpow_natCast, ← zpow_neg, Int.toNat_of_nonneg (by omega), neg_neg]
    rw [if_pos he, hpow, div_eq_mul_inv]
    simp
  · have hpow : (2 : ℚ) ^ e = (2 : ℚ) ^ e.toNat := by
      rw [← zpow_natCast, Int.toNat_of_nonneg (by omega)]
    rw [if_neg he, hpow]
    simp

/-- A quotient is an integer just when the division leaves no rest. -/
theorem div_eq_intCast_iff {n d : Nat} (hd : 0 < d) :
    (n : ℚ) / d = i ↔ n % d = 0 ∧ ((n / d : Nat) : Int) = i := by
  have hne : (d : ℚ) ≠ 0 := Nat.cast_ne_zero.mpr hd.ne'
  constructor
  · intro h
    have hmul : (n : Int) = i * d := by
      have := (div_eq_iff hne).mp h
      exact_mod_cast this
    have hdvd : d ∣ n := Int.natCast_dvd_natCast.mp ⟨i, by rw [hmul, mul_comm]⟩
    refine ⟨Nat.mod_eq_zero_of_dvd hdvd, ?_⟩
    rw [Int.natCast_div, hmul, Int.mul_ediv_cancel _ (Int.natCast_ne_zero.mpr hd.ne')]
  · rintro ⟨hmod, rfl⟩
    rw [Int.cast_natCast, Nat.cast_div (Nat.dvd_of_mod_eq_zero hmod) hne]

/-- The integer of a number is its value. -/
theorem toInt?_eq_some_iff : x.toInt? = some i ↔ x.value? = some (i : ℚ) := by
  cases x with
  | finite negative s e =>
    have hdiv := fun j : Int => div_eq_intCast_iff (i := j) (ratio_snd_pos s e) (n := (ratio s e).1)
    simp only [ratio_eq] at hdiv
    rw [toInt?, value?, Option.some.injEq, signedValue]
    dsimp only
    cases negative with
    | false =>
      rw [if_neg Bool.false_ne_true, if_neg Bool.false_ne_true, hdiv]
      by_cases hmod : (ratio s e).1 % (ratio s e).2 = 0 <;> simp [hmod]
    | true =>
      rw [if_pos rfl, if_pos rfl, neg_eq_iff_eq_neg, ← Int.cast_neg, hdiv]
      by_cases hmod : (ratio s e).1 % (ratio s e).2 = 0 <;> simp [hmod, neg_eq_iff_eq_neg]
  | infinite negative => simp [toInt?, value?]
  | nan payload => simp [toInt?, value?]

/-! ## Texts -/

/-- A character of the texts of numbers that are no integers. -/
def isNumberMark (c : Char) : Bool := c == '.' || c == 'e' || c == 'n'

theorem point_mem_positional (d : Decimal) : '.' ∈ (positional d).toList := by
  unfold positional
  dsimp only
  by_cases hplace : d.pointPlace ≤ 0
  · rw [if_pos hplace]
    simp
  · rw [if_neg hplace]
    simp

theorem exponent_mem_scientific (style : Style) (d : Decimal) :
    'e' ∈ (scientific style d).toList := by
  unfold scientific
  simp

/-- The text of a number has a point, an exponent or a name. -/
theorem exists_mark_mem_text (x : Binary64) : ∃ c ∈ (x.text .shown).toList, isNumberMark c := by
  cases x with
  | finite negative s e =>
    rw [text]
    by_cases hs : s = 0
    · refine ⟨'.', ?_, by decide⟩
      rw [if_pos hs, String.toList_append]
      exact List.mem_append_right _ (by decide)
    · rw [if_neg hs, decimalText, String.toList_append]
      by_cases hplain : -4 < (shortest s e).pointPlace ∧ (shortest s e).pointPlace ≤ 16
      · rw [if_pos hplain]
        exact ⟨'.', List.mem_append_right _ (point_mem_positional _), by decide⟩
      · rw [if_neg hplain]
        exact ⟨'e', List.mem_append_right _ (exponent_mem_scientific _ _), by decide⟩
  | infinite negative =>
    refine ⟨'n', ?_, by decide⟩
    rw [text, String.toList_append]
    exact List.mem_append_right _ (by decide)
  | nan payload =>
    have hname : 'n' ∈ Style.shown.notANumber.toList := by decide
    exact ⟨'n', hname, by decide⟩

end SurveyChecks.Binary64
