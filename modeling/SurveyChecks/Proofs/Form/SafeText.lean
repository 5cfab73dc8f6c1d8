import Mathlib.Data.List.Basic
import SurveyChecks.Form.Label

/-!
# Safe texts

A text is made safe for scripts in passes over the whole of it. The passes come to one substitution
for each character: a number sign for a dollar sign, nothing for a double quote nor, when the text is
to stand on one line, for the two line breaks, and every other character for itself.
-/

namespace SurveyChecks

namespace Text

/-- The characters without the runs of those that satisfy `p`, each of which is skipped whole. -/
def withoutRuns (p : Char → Bool) : List Char → List Char
  | [] => []
  | c :: cs => if p c then withoutRuns p (cs.dropWhile p) else c :: withoutRuns p cs
termination_by cs => cs.length
decreasing_by
  · exact Nat.lt_succ_of_le (List.dropWhile_sublist p).length_le
  · exact Nat.lt_succ_self _

theorem filter_dropWhile (p : Char → Bool) (cs : List Char) :
    (cs.dropWhile p).filter (!p ·) = cs.filter (!p ·) := by
  induction cs with
  | nil => rfl
  | cons c cs ih =>
    by_cases hc : p c
    · rw [List.dropWhile_cons_of_pos hc, List.filter_cons_of_neg (by simp [hc]), ih]
    · rw [List.dropWhile_cons_of_neg hc]

/-- Skipping whole runs deletes the same characters as deleting them one by one. -/
theorem withoutRuns_eq_filter (p : Char → Bool) (cs : List Char) :
    withoutRuns p cs = cs.filter (!p ·) := by
  induction cs using withoutRuns.induct p with
  | case1 => rw [withoutRuns, List.filter_nil]
  | case2 c cs hc ih =>
    rw [withoutRuns, if_pos hc, ih, filter_dropWhile, List.filter_cons_of_neg (by simp [hc])]
  | case3 c cs hc ih => rw [withoutRuns, if_neg hc, ih, List.filter_cons_of_pos (by simp [hc])]

end Text

namespace Label

open SurveyChecks.Text

variable {oneLine : Bool} {c d : Char} {s t : String}

/-- The characters that a safe text does not have. -/
def marks (oneLine : Bool) : List Char := if oneLine then ['$', '"', '\r', '\n'] else ['$', '"']

/-- What stands for a character in a safe text. -/
def substitute (oneLine : Bool) (c : Char) : List Char :=
  if c = '$' then ['#'] else if c ∈ marks oneLine then [] else [c]

/-- A text has none of the characters that a safe text does not have. -/
def IsSafe (oneLine : Bool) (s : String) : Prop := ∀ c ∈ marks oneLine, c ∉ s.toList

instance (oneLine : Bool) (s : String) : Decidable (IsSafe oneLine s) :=
  List.decidableBAll (· ∉ s.toList) (marks oneLine)

theorem isSafe_empty : IsSafe oneLine "" := by
  intro c _
  simp

/-! ## Characters -/

theorem substitute_of_not_mem (h : c ∉ marks oneLine) : substitute oneLine c = [c] := by
  have hdollar : c ≠ '$' := by
    rintro rfl
    cases oneLine <;> exact h (by decide)
  rw [substitute, if_neg hdollar, if_neg h]

theorem not_mem_marks_of_mem_substitute (h : d ∈ substitute oneLine c) : d ∉ marks oneLine := by
  unfold substitute at h
  split at h
  · obtain rfl := List.mem_singleton.mp h
    cases oneLine <;> decide
  · split at h
    · contradiction
    · rename_i hc
      rwa [List.mem_singleton.mp h]

theorem substitute_false (c : Char) :
    substitute false c = [if c = '$' then '#' else c].filter (!· == '"') := by
  unfold substitute
  by_cases hdollar : c = '$'
  · simp [hdollar]
  · by_cases hquote : c = '"' <;> simp [marks, hdollar, hquote]

theorem substitute_true (c : Char) :
    substitute true c = (substitute false c).filter (!isLineBreak ·) := by
  unfold substitute
  by_cases hdollar : c = '$'
  · simp [hdollar, isLineBreak]
  · by_cases hquote : c = '"'
    · simp [marks, hquote]
    · by_cases hreturn : c = '\r'
      · simp [marks, hreturn, isLineBreak]
      · by_cases hfeed : c = '\n'
        · simp [marks, hfeed, isLineBreak]
        · simp [marks, isLineBreak, hdollar, hquote, hreturn, hfeed]

/-! ## Texts -/

theorem toList_safe_false (s : String) :
    (safe false s).toList = s.toList.flatMap (substitute false) := by
  show (withoutQuotes s).toList = _
  -- a pass looks at one character at a time, so all passes can be made on each character in turn
  rw [withoutQuotes, without, replaceChar, String.toList_ofList, String.toList_ofList,
    List.map_eq_flatMap, List.filter_flatMap]
  exact List.flatMap_congr fun c _ => (substitute_false c).symm

theorem toList_safe_true (s : String) :
    (safe true s).toList = (safe false s).toList.filter (!isLineBreak ·) := by
  show (withoutLineBreaks (withoutQuotes s)).toList = _
  rw [withoutLineBreaks, without, String.toList_ofList]
  rfl

/-- The passes come to one substitution for each character. -/
theorem toList_safe (oneLine : Bool) (s : String) :
    (safe oneLine s).toList = s.toList.flatMap (substitute oneLine) := by
  cases oneLine with
  | false => exact toList_safe_false s
  | true =>
    rw [toList_safe_true, toList_safe_false, List.filter_flatMap]
    exact List.flatMap_congr fun c _ => (substitute_true c).symm

theorem safe_append (oneLine : Bool) (s t : String) :
    safe oneLine (s ++ t) = safe oneLine s ++ safe oneLine t := by
  rw [← String.toList_inj, String.toList_append, toList_safe, toList_safe, toList_safe,
    String.toList_append, List.flatMap_append]

theorem isSafe_safe (oneLine : Bool) (s : String) : IsSafe oneLine (safe oneLine s) := by
  intro d hd hin
  rw [toList_safe] at hin
  obtain ⟨c, -, hc⟩ := List.mem_flatMap.mp hin
  exact not_mem_marks_of_mem_substitute hc hd

/-- A text is left as it is just when it is safe. -/
theorem safe_eq_self_iff : safe oneLine s = s ↔ IsSafe oneLine s := by
  constructor
  · intro h
    rw [← h]
    exact isSafe_safe oneLine s
  · intro h
    have hkeep : ∀ c ∈ s.toList, substitute oneLine c = [c] := by
      intro c hc
      exact substitute_of_not_mem fun hmark => h c hmark hc
    rw [← String.toList_inj, toList_safe, List.flatMap_congr hkeep, List.flatMap_singleton']

theorem safe_safe (oneLine : Bool) (s : String) :
    safe oneLine (safe oneLine s) = safe oneLine s :=
  safe_eq_self_iff.mpr (isSafe_safe oneLine s)

end Label

end SurveyChecks
