import SurveyChecks.Proofs.Checks.Mirror

/-!
# Guards

What stands at the guards of a script: the checks of the select-one variables and the comments of
the enumerators, and nothing else.
-/

namespace SurveyChecks.Script

open SurveyChecks.Text

/-! ## The lines of checks -/

/-- The line that asks whether a variable exists. -/
def confirmLine (name : String) : String := "capture confirm variable " ++ name

/-- The line that opens the block for a variable that exists. -/
def guardLine : String := "if !_rc \x7b"

/-- The line that tabulates a variable. -/
def tabLine (name : String) : String := "    tab " ++ name ++ ", missing"

/-- The line that lists the values of a variable outside codes. -/
def rangeLine (ids name : String) (codes : List Int) : String :=
  "    list " ++ ids ++ " " ++ name ++ " if !inlist(" ++ name ++ ", " ++
    ", ".intercalate (codes.map toString) ++ ") & !missing(" ++ name ++ "), abbreviate(32) noobs"

/-- The line below the guard of a select-one variable. -/
def checkLine (ids name : String) (codes : List Int) : String :=
  if codes = [] then tabLine name else rangeLine ids name codes

/-- The line below the guard of the enumerators' comments. -/
def commentLine (ids name : String) : String :=
  "    list " ++ ids ++ " " ++ name ++ " if !missing(" ++ name ++ "), abbreviate(32) noobs"

section Lines

variable {ids ids' name name' : String} {codes : List Int}

/-- A line is told apart from the guard by its first words. -/
theorem append_ne_guardLine (w l : String) (hw : ¬ Starts w guardLine) : w ++ l ≠ guardLine :=
  fun heq => hw (heq ▸ starts_append w l)

theorem confirmLine_ne_guardLine (name : String) : confirmLine name ≠ guardLine :=
  append_ne_guardLine _ _ (by decide)

theorem tabLine_ne_guardLine (name : String) : tabLine name ≠ guardLine := by
  unfold tabLine
  simp only [String.append_assoc]
  exact append_ne_guardLine _ _ (by decide)

theorem rangeLine_ne_guardLine (ids name : String) (codes : List Int) :
    rangeLine ids name codes ≠ guardLine := by
  unfold rangeLine
  simp only [String.append_assoc]
  exact append_ne_guardLine _ _ (by decide)

theorem commentLine_ne_guardLine (ids name : String) : commentLine ids name ≠ guardLine := by
  unfold commentLine
  simp only [String.append_assoc]
  exact append_ne_guardLine _ _ (by decide)

theorem confirmLine_injective (h : confirmLine name = confirmLine name') : name = name' :=
  (String.append_right_inj _).mp h

theorem tabLine_injective (h : tabLine name = tabLine name') : name = name' :=
  (String.append_right_inj _).mp ((String.append_left_inj _).mp h)

theorem starts_tabLine (name : String) : Starts "    tab " (tabLine name) := by
  unfold tabLine
  rw [String.append_assoc]
  exact starts_append ..

/-- The two kinds of checks differ in their commands, whatever the variables are called. -/
theorem tabLine_ne_list (name l : String) : tabLine name ≠ "    list " ++ l := by
  intro heq
  have ha : Apart "    tab " ["    list "] := by decide
  exact not_starts_of_apart ha (List.mem_singleton_self _) (starts_append ..)
    (heq ▸ starts_tabLine name)

theorem tabLine_ne_rangeLine : tabLine name ≠ rangeLine ids name' codes := by
  unfold rangeLine
  simp only [String.append_assoc]
  exact tabLine_ne_list _ _

theorem tabLine_ne_commentLine : tabLine name ≠ commentLine ids name' := by
  unfold commentLine
  simp only [String.append_assoc]
  exact tabLine_ne_list _ _

/-- A variable is tabulated just when it has no codes to be checked against. -/
theorem checkLine_eq_tabLine_iff :
    checkLine ids name codes = tabLine name' ↔ codes = [] ∧ name = name' := by
  unfold checkLine
  by_cases hcodes : codes = []
  · rw [if_pos hcodes]
    exact ⟨fun h => ⟨hcodes, tabLine_injective h⟩, fun h => congrArg tabLine h.2⟩
  · rw [if_neg hcodes]
    exact iff_of_false tabLine_ne_rangeLine.symm fun h => hcodes h.1

theorem checkLine_ne_guardLine (ids name : String) (codes : List Int) :
    checkLine ids name codes ≠ guardLine := by
  unfold checkLine
  split
  · exact tabLine_ne_guardLine name
  · exact rangeLine_ne_guardLine ids name codes

theorem getLast?_append_of_eq_some {w : String} {c : Char} (hw : w.toList.getLast? = some c)
    (l : String) : (l ++ w).toList.getLast? = some c := by
  rw [String.toList_append, List.getLast?_append, hw, Option.some_or]

/-- Before the condition that they share, the two lines end in different characters. -/
theorem rangeLine_ne_commentLine : rangeLine ids name codes ≠ commentLine ids' name := by
  intro heq
  have hrange : rangeLine ids name codes =
      ("    list " ++ ids ++ " " ++ name ++ " if !inlist(" ++ name ++ ", " ++
        ", ".intercalate (codes.map toString) ++ ") &") ++
      (" !missing(" ++ name ++ "), abbreviate(32) noobs") := by
    have hcut : ") & !missing(" = ") &" ++ " !missing(" := by decide
    unfold rangeLine
    rewrite [hcut]
    simp only [String.append_assoc]
  have hcomment : commentLine ids' name = ("    list " ++ ids' ++ " " ++ name ++ " if") ++
      (" !missing(" ++ name ++ "), abbreviate(32) noobs") := by
    have hcut : " if !missing(" = " if" ++ " !missing(" := by decide
    unfold commentLine
    rewrite [hcut]
    simp only [String.append_assoc]
  rw [hrange, hcomment, String.append_left_inj] at heq
  have hand := getLast?_append_of_eq_some (w := ") &") (c := '&') (by decide)
    ("    list " ++ ids ++ " " ++ name ++ " if !inlist(" ++ name ++ ", " ++
      ", ".intercalate (codes.map toString))
  have hif := getLast?_append_of_eq_some (w := " if") (c := 'f') (by decide)
    ("    list " ++ ids' ++ " " ++ name)
  rw [heq, hif] at hand
  exact absurd (Option.some.inj hand) (by decide)

end Lines

/-! ## The checks of select-one variables -/

/-- The codes that a variable is checked against. -/
def codesOf (f : Form) (name : String) : List Int :=
  (f.choiceList (((f.question? name).bind Question.choiceList?).getD "")).map (·.code)

/-- The codes in a script are the codes of the list that the question of that name refers to. -/
theorem codesFor_eq (f : Form) (name : String) :
    codesFor f name = (codesOf f name).map toString := by
  rw [codesOf, List.map_map]
  rfl

section Check

variable {f : Form} {ids name : String} {codes : List Int}

/-- The four lines of a check, with the pieces that the script is put together from joined. -/
theorem selectOneCheck_of_codes (h : codesFor f name = codes.map toString) :
    selectOneCheck f ids name = [confirmLine name, guardLine,
      if codes = [] then tabLine name else rangeLine ids name codes, "\x7d"] := by
  have htab : "    " ++ ("tab " ++ name ++ ", missing") = tabLine name := by
    rw [← String.toList_inj]
    simp [tabLine]
  have hrange : "    " ++ listing ids name ("!inlist(" ++ name ++ ", " ++
      ", ".intercalate (codes.map toString) ++ ")" ++ " & !missing(" ++ name ++ ")") =
      rangeLine ids name codes := by
    -- the literals are cut where the pieces of the listing meet
    have hlist : "    list " = "    " ++ "list " := by decide
    have hcondition : " if !inlist(" = " if " ++ "!inlist(" := by decide
    have hmissing : ") & !missing(" = ")" ++ " & !missing(" := by decide
    have hoptions : "), abbreviate(32) noobs" = ")" ++ (", " ++ listOptions) := by decide
    unfold rangeLine listing
    rewrite [hlist, hcondition, hmissing, hoptions]
    simp only [String.append_assoc]
  have hcheck : selectOneCheck f ids name = [confirmLine name, "if !_rc" ++ " \x7b",
      "    " ++ (if (codesFor f name).isEmpty then "tab " ++ name ++ ", missing"
        else listing ids name ("!inlist(" ++ name ++ ", " ++ ", ".intercalate (codesFor f name) ++
          ")" ++ " & !missing(" ++ name ++ ")")), "\x7d"] := rfl
  have hguard : "if !_rc" ++ " \x7b" = guardLine := by decide
  rw [hcheck, h, hguard]
  by_cases hcodes : codes = []
  · have hempty : (codes.map toString).isEmpty = true := by simpa using hcodes
    rw [if_pos hempty, if_pos hcodes, htab]
  · have hempty : ¬ (codes.map toString).isEmpty = true := by simpa using hcodes
    rw [if_neg hempty, if_neg hcodes, hrange]

end Check

/-! ## The lines around guards -/

/-- The lines above and below each guard, in order. -/
def guards : List String → List (String × String)
  | x :: g :: y :: ls =>
    if g = guardLine then (x, y) :: guards (g :: y :: ls) else guards (g :: y :: ls)
  | _ => []

section Guards

variable {ls ls' words : List String} {gs gs' : List (String × String)} {x y : String}

/-- Two lines stand around a guard just when the three of them are next to each other. -/
theorem mem_guards_iff : (x, y) ∈ guards ls ↔ [x, guardLine, y] <:+: ls := by
  induction ls using guards.induct with
  | case1 x' y' ls ih =>
    rw [List.infix_cons_iff, guards, if_pos rfl, List.mem_cons, ih, Prod.mk.injEq]
    simp
  | case2 x' g y' ls hg ih =>
    rw [List.infix_cons_iff, guards, if_neg hg, ih]
    simp [Ne.symm hg]
  | case3 ls hshort =>
    have hnil : guards ls = [] := guards.eq_2 ls hshort
    rw [hnil]
    refine iff_of_false List.not_mem_nil fun h => ?_
    have hlength := h.length_le
    match ls, hshort, hlength with
    | [], _, hlength => simp at hlength
    | [_], _, hlength => simp at hlength
    | [_, _], _, hlength => simp at hlength
    | a :: b :: c :: ls, hshort, _ => exact hshort a b c ls rfl

/-- No guard stands at either end of the lines, and those inside stand between the given lines. -/
structure HasGuards (ls : List String) (gs : List (String × String)) : Prop where
  first : ls.head? ≠ some guardLine
  last : ls.getLast? ≠ some guardLine
  eq : guards ls = gs

/-- A line that no guard follows opens nothing. -/
theorem guards_cons_of_ne (h : ls.head? ≠ some guardLine) : guards (x :: ls) = guards ls := by
  match ls, h with
  | [], _ => rfl
  | [_], _ => rfl
  | g :: y :: ls, h =>
    have hg : g ≠ guardLine := by simpa using h
    rw [guards, if_neg hg]

/-- The guards of two pieces are those of each, when no guard stands where they meet: there the line
above it or the one below would be missing. -/
theorem guards_append (h : ls.getLast? ≠ some guardLine) (h' : ls'.head? ≠ some guardLine) :
    guards (ls ++ ls') = guards ls ++ guards ls' := by
  induction ls using guards.induct with
  | case1 x y ls ih =>
    have hlast : (guardLine :: y :: ls).getLast? ≠ some guardLine := by
      simpa using h
    have hrest := ih hlast
    simp only [List.cons_append] at hrest ⊢
    rw [guards, guards, if_pos rfl, if_pos rfl, hrest, List.cons_append]
  | case2 x g y ls hg ih =>
    have hlast : (g :: y :: ls).getLast? ≠ some guardLine := by
      simpa using h
    have hrest := ih hlast
    simp only [List.cons_append] at hrest ⊢
    rw [guards, guards, if_neg hg, if_neg hg, hrest]
  | case3 ls hshort =>
    -- at most two lines, the last of which is no guard
    have hfirst : ∀ a, guards (a :: ls') = guards ls' := fun a => guards_cons_of_ne h'
    match ls, hshort, h with
    | [], _, _ => rfl
    | [a], _, _ => exact hfirst a
    | [a, b], _, h =>
      have hb : b ≠ guardLine := by simpa using h
      have hsecond : guards (a :: ([b] ++ ls')) = guards ([b] ++ ls') :=
        guards_cons_of_ne (by simpa using hb)
      exact hsecond.trans (hfirst b)
    | a :: b :: c :: ls, hshort, _ => exact absurd rfl (hshort a b c ls)

theorem HasGuards.append (h : HasGuards ls gs) (h' : HasGuards ls' gs') :
    HasGuards (ls ++ ls') (gs ++ gs') := by
  refine ⟨?_, ?_, by rw [guards_append h.last h'.first, h.eq, h'.eq]⟩
  · rw [List.head?_append]
    intro hhead
    rcases Option.or_eq_some_iff.mp hhead with hhead | ⟨-, hhead⟩
    · exact h.first hhead
    · exact h'.first hhead
  · rw [List.getLast?_append]
    intro hlast
    rcases Option.or_eq_some_iff.mp hlast with hlast | ⟨-, hlast⟩
    · exact h'.last hlast
    · exact h.last hlast

theorem hasGuards_nil : HasGuards [] [] := ⟨by simp, by simp, rfl⟩

/-- Lines that start with other words than the guard have none. -/
theorem hasGuards_of_opens (ha : Apart guardLine words) (ho : Opens words ls) :
    HasGuards ls [] := by
  have hnone : ∀ l ∈ ls, l ≠ guardLine := fun l hl heq =>
    not_starts_of_opens ha ho l hl (heq ▸ List.prefix_rfl)
  refine ⟨fun h => hnone _ (List.mem_of_head? h) rfl,
    fun h => hnone _ (List.mem_of_getLast? h) rfl, ?_⟩
  refine List.eq_nil_iff_forall_not_mem.mpr fun (x, y) hxy => ?_
  exact hnone guardLine ((mem_guards_iff.mp hxy).mem (by simp)) rfl

/-- A check is one guard between the line that asks for the variable and the check proper. -/
theorem hasGuards_block (hx : x ≠ guardLine) (hy : y ≠ guardLine) :
    HasGuards [x, guardLine, y, "\x7d"] [(x, y)] :=
  ⟨by simpa using hx, by simp [guardLine], by simp [guards, hy]⟩

theorem hasGuards_flatMap {α : Type} {f : α → List String} {g : α → List (String × String)}
    {xs : List α} (h : ∀ x ∈ xs, HasGuards (f x) (g x)) :
    HasGuards (xs.flatMap f) (xs.flatMap g) := by
  induction xs with
  | nil => exact hasGuards_nil
  | cons x xs ih =>
    rw [List.flatMap_cons, List.flatMap_cons]
    exact (h x (List.mem_cons_self ..)).append (ih fun y hy => h y (List.mem_cons_of_mem _ hy))

end Guards

/-! ## The guards of a script -/

/-- What stands at the guards of a part: a check for each select-one variable, and in the survey
dataset the enumerators' comments. -/
def partGuards (f : Form) (p : Parameters) (d : Dataset) : List (String × String) :=
  ((f.catalog.names d.name .selectOne).map fun n =>
      (confirmLine n, checkLine (identifiers d p) n (codesOf f n))) ++
    if d.name = surveyDataset then
      p.enumeratorComments.toList.map fun v => (confirmLine v, commentLine (identifiers d p) v)
    else []

/-- What stands at a guard is the check of a select-one variable or, in the survey dataset, the
comments of the enumerators. -/
theorem mem_partGuards_iff {f : Form} {p : Parameters} {d : Dataset} {x y : String} :
    (x, y) ∈ partGuards f p d ↔
      (∃ n ∈ f.catalog.names d.name .selectOne,
        x = confirmLine n ∧ y = checkLine (identifiers d p) n (codesOf f n)) ∨
      (d.name = surveyDataset ∧ ∃ v, p.enumeratorComments = some v ∧
        x = confirmLine v ∧ y = commentLine (identifiers d p) v) := by
  unfold partGuards
  rw [List.mem_append, List.mem_map]
  refine or_congr (by simp only [Prod.mk.injEq, eq_comm]) ?_
  by_cases hd : d.name = surveyDataset
  · rw [if_pos hd, List.mem_map, and_iff_right hd]
    simp only [Option.mem_toList, Prod.mk.injEq, eq_comm]
  · rw [if_neg hd]
    exact iff_of_false List.not_mem_nil fun h => hd h.1

theorem hasGuards_selectOneCheck (f : Form) (ids name : String) :
    HasGuards (selectOneCheck f ids name)
      [(confirmLine name, checkLine ids name (codesOf f name))] := by
  rw [selectOneCheck_of_codes (codesFor_eq f name)]
  exact hasGuards_block (confirmLine_ne_guardLine name) (checkLine_ne_guardLine ids name _)

theorem hasGuards_comments (ids : String) (p : Parameters) :
    HasGuards (comments ids p)
      (p.enumeratorComments.toList.map fun v => (confirmLine v, commentLine ids v)) := by
  unfold comments
  cases p.enumeratorComments with
  | none => exact hasGuards_nil
  | some v =>
    have hwords : Opens ["* Enumerator"] ["", "* Enumerator comments"] := by decide
    have hline : "    " ++ listing ids v ("!missing(" ++ v ++ ")") = commentLine ids v := by
      rw [← String.toList_inj]
      simp [listing, listOptions, commentLine]
    show HasGuards (["", "* Enumerator comments"] ++ [confirmLine v, guardLine,
      "    " ++ listing ids v ("!missing(" ++ v ++ ")"), "\x7d"]) ([] ++ [(confirmLine v, _)])
    rw [hline]
    exact (hasGuards_of_opens (by decide) hwords).append
      (hasGuards_block (confirmLine_ne_guardLine v) (commentLine_ne_guardLine ids v))

/-- The guards of a part come from its select-one section and from the comments. The loops over the
other kinds have no guard: their test stands on one line. -/
theorem hasGuards_part (f : Form) (p : Parameters) (d : Dataset) :
    HasGuards (part f p d) (partGuards f p d) := by
  have hloop : ∀ {heading list names before body}, Opens ["local now"] before →
      Apart guardLine ("* " :: loopWords list) →
      HasGuards (listSection heading list names before body) [] := fun hbefore hapart =>
    hasGuards_of_opens hapart (opens_listSection_star hbefore)
  have hselectOne : HasGuards (selectOneSection f (identifiers d p)
      (f.catalog.names d.name .selectOne)) ((f.catalog.names d.name .selectOne).map fun n =>
        (confirmLine n, checkLine (identifiers d p) n (codesOf f n))) := by
    unfold selectOneSection sectionOf
    split
    · rename_i hempty
      rw [List.isEmpty_iff.mp hempty]
      exact hasGuards_nil
    · have hchecks := hasGuards_flatMap fun n (_ : n ∈ f.catalog.names d.name .selectOne) =>
        hasGuards_selectOneCheck f (identifiers d p) n
      rw [← List.map_eq_flatMap] at hchecks
      exact (hasGuards_of_opens (by decide) (opens_heading _)).append hchecks
  have hsections : HasGuards (kindSections f d p) ((f.catalog.names d.name .selectOne).map fun n =>
        (confirmLine n, checkLine (identifiers d p) n (codesOf f n))) := by
    rw [kindSections_eq]
    simpa using (((((hloop (opens_nil _) (by decide)).append hselectOne).append
      (hloop (opens_nil _) (by decide))).append (hloop (opens_nil _) (by decide))).append
      (hloop opens_now (by decide))).append (hloop (opens_nil _) (by decide))
  have hopening : HasGuards (opening d) [] := hasGuards_of_opens (by decide) (opens_opening d)
  have hsetup : HasGuards (if d.name = surveyDataset then surveySetup p else []) [] := by
    split
    · exact hasGuards_of_opens (by decide) (opens_surveySetup p)
    · exact hasGuards_nil
  have hcomments : HasGuards
      (if d.name = surveyDataset then comments (identifiers d p) p else [])
      (if d.name = surveyDataset then p.enumeratorComments.toList.map fun v =>
        (confirmLine v, commentLine (identifiers d p) v) else []) := by
    split
    · exact hasGuards_comments ..
    · exact hasGuards_nil
  exact ((hopening.append hsetup).append hsections).append hcomments

/-- What stands at the guards of a script. -/
theorem guards_lines (f : Form) (p : Parameters) :
    guards (lines f p) = f.datasets.flatMap (partGuards f p) := by
  have hpreamble : HasGuards (preamble f p) [] :=
    hasGuards_of_opens (by decide) (opens_preamble f p)
  have hparts := hasGuards_flatMap fun d (_ : d ∈ f.datasets) => hasGuards_part f p d
  have hwords : Opens frameWords ["", "log close", ""] := by decide
  have hend : HasGuards ["", "log close", ""] [] := hasGuards_of_opens (by decide) hwords
  rw [lines, ((hpreamble.append hparts).append hend).eq, List.append_nil, List.nil_append]

end SurveyChecks.Script
