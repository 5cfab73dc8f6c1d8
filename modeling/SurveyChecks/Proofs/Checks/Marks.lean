import SurveyChecks.Proofs.Checks.Lines

/-!
# Marks of lines

Which lines of a script start with a mark. Every line that a piece of a script is made of opens with
one of a few words of the piece, and a mark that is apart from these words starts no line of the
piece, whatever names and texts stand in it. So a mark picks out the lines of one piece.
-/

namespace SurveyChecks.Script

open SurveyChecks.Text

/-! ## Marks -/

/-- A line starts with a mark. -/
def Starts (mark l : String) : Prop := mark.toList <+: l.toList

instance (mark l : String) : Decidable (Starts mark l) :=
  inferInstanceAs (Decidable (mark.toList <+: l.toList))

/-- The lines that start with a mark, in order. -/
def marked (mark : String) (ls : List String) : List String := ls.filter (Starts mark ·)

/-- Each line is empty or opens with one of the words. -/
def Opens (words ls : List String) : Prop := ∀ l ∈ ls, l = "" ∨ ∃ w ∈ words, Starts w l

instance (words ls : List String) : Decidable (Opens words ls) :=
  inferInstanceAs (Decidable (∀ l ∈ ls, l = "" ∨ ∃ w ∈ words, Starts w l))

/-- No line that opens with one of the words starts with the mark. -/
def Apart (mark : String) (words : List String) : Prop :=
  mark ≠ "" ∧ ∀ w ∈ words, ¬ Starts mark w ∧ ¬ Starts w mark

instance (mark : String) (words : List String) : Decidable (Apart mark words) :=
  inferInstanceAs (Decidable (mark ≠ "" ∧ ∀ w ∈ words, ¬ Starts mark w ∧ ¬ Starts w mark))

section Marked

variable {mark l : String} {ls ls' words words' : List String}

@[simp] theorem marked_nil : marked mark [] = [] := rfl

@[simp] theorem marked_append : marked mark (ls ++ ls') = marked mark ls ++ marked mark ls' :=
  List.filter_append ..

theorem marked_flatMap {α : Type} (f : α → List String) (xs : List α) :
    marked mark (xs.flatMap f) = xs.flatMap fun x => marked mark (f x) :=
  List.filter_flatMap ..

theorem marked_cons_of_starts (h : Starts mark l) :
    marked mark (l :: ls) = l :: marked mark ls := by
  simp [marked, h]

theorem starts_append (mark l : String) : Starts mark (mark ++ l) := by simp [Starts]

/-- A line cannot start with a mark and open with a word apart from it, since one of two starts of a
line is a start of the other. -/
theorem not_starts_of_apart {w : String} (ha : Apart mark words) (hw : w ∈ words)
    (h : Starts w l) : ¬ Starts mark l := by
  intro hmark
  rcases List.prefix_or_prefix_of_prefix hmark h with hpre | hpre
  · exact (ha.2 w hw).1 hpre
  · exact (ha.2 w hw).2 hpre

theorem not_starts_of_opens (ha : Apart mark words) (ho : Opens words ls) :
    ∀ l ∈ ls, ¬ Starts mark l := by
  intro l hl
  rcases ho l hl with rfl | ⟨w, hw, hword⟩
  · exact fun hmark => ha.1 (by simpa [Starts] using hmark)
  · exact not_starts_of_apart ha hw hword

/-- A mark that is apart from the words of a piece picks out none of its lines. -/
theorem marked_eq_nil (ha : Apart mark words) (ho : Opens words ls) : marked mark ls = [] :=
  List.filter_eq_nil_iff.mpr fun l hl => by simpa using not_starts_of_opens ha ho l hl

theorem Opens.append (h : Opens words ls) (h' : Opens words ls') : Opens words (ls ++ ls') :=
  List.forall_mem_append.mpr ⟨h, h'⟩

/-- A line opens with the shorter words that its own word opens with. -/
theorem Opens.shorten (h : Opens words ls) (hshort : ∀ w ∈ words, ∃ v ∈ words', Starts v w) :
    Opens words' ls := by
  intro l hl
  rcases h l hl with hempty | ⟨w, hw, hword⟩
  · exact Or.inl hempty
  · obtain ⟨v, hv, hstart⟩ := hshort w hw
    exact Or.inr ⟨v, hv, hstart.trans hword⟩

theorem Opens.shorten_head {v w : String} (h : Opens (w :: words) ls) (hw : Starts v w) :
    Opens (v :: words) ls :=
  h.shorten (List.forall_mem_cons.mpr ⟨⟨v, List.mem_cons_self .., hw⟩,
    fun u hu => ⟨u, List.mem_cons_of_mem _ hu, List.prefix_rfl⟩⟩)

theorem Opens.mono (h : Opens words ls) (hsub : words ⊆ words') : Opens words' ls :=
  h.shorten fun w hw => ⟨w, hsub hw, List.prefix_rfl⟩

/-- Two pieces together open with the words of both. -/
theorem Opens.join (h : Opens words ls) (h' : Opens words' ls') :
    Opens (words ++ words') (ls ++ ls') :=
  (h.mono (List.subset_append_left ..)).append (h'.mono (List.subset_append_right ..))

end Marked

/-! ## The words that open the lines of each piece -/

section Pieces

variable {mark heading list ids name : String} {names before body words : List String}

/-- The words that open the lines inside a block and the line that closes one. -/
def inner : List String := ["    ", "\x7d"]

theorem opens_indented (ls : List String) : Opens inner (indented ls) := by
  intro l hl
  obtain ⟨l', -, rfl⟩ := List.mem_map.mp hl
  exact Or.inr ⟨"    ", by decide, starts_append ..⟩

/-- Whatever the body of a block is, its lines are indented. -/
theorem opens_block (heading : String) (body : List String) :
    Opens (heading :: inner) (block heading body) := by
  have hinner := (opens_indented body).mono (List.subset_cons_self heading inner)
  refine Opens.append (Opens.append ?_ hinner) ?_
  · exact List.forall_mem_singleton.mpr
      (Or.inr ⟨heading, List.mem_cons_self .., starts_append ..⟩)
  · exact List.forall_mem_singleton.mpr
      (Or.inr ⟨"\x7d", by simp [inner], by decide⟩)

/-- The words that open the lines before the parts and after them. -/
def frameWords : List String := ["* High", "* Generated", "clear", "set", "cd", "capture", "log"]

/-- The name of the form and the directories stand behind words of the preamble. -/
theorem opens_preamble (f : Form) (p : Parameters) : Opens frameWords (preamble f p) := by
  refine Opens.append ?_ fun l hl => ?_
  · simp [Opens, Starts, frameWords]
  · obtain ⟨dir, -, rfl⟩ := List.mem_map.mp hl
    simp [Starts, frameWords]

/-- The words that open the lines that load a dataset. -/
def openingWords : List String := ["**", "* Dataset: ", "use \""]

theorem opens_opening (d : Dataset) : Opens openingWords (opening d) := by
  have hrule : Starts "**" rule := by decide
  simp only [Opens, opening, openingWords, List.forall_mem_cons, List.exists_mem_cons_iff, hrule]
  simp [Starts, inQuotes]

theorem opens_successFilter (p : Parameters) : Opens ["keep if "] (successFilter p) := by
  intro l hl
  obtain ⟨t, -, rfl⟩ := List.mem_map.mp hl
  exact Or.inr ⟨_, List.mem_cons_self .., starts_append ..⟩

/-- The words that open the lines below the heading of the corrections. -/
def correctionWords : List String :=
  ["preserve", "import", "local n_corr", "restore", "forvalues"] ++ inner

/-- Corrections from a file have their heading and, below it, lines that open with other words. -/
theorem exists_corrections {p : Parameters} {file : String} (h : p.correctionsFile = some file) :
    ∃ below, corrections p = ["", "* Corrections"] ++ below ∧ Opens correctionWords below := by
  have hread : Opens correctionWords readCorrections := (opens_block _ _).shorten (by decide)
  have happly : Opens correctionWords (applyCorrections (p.uniqueIds.head?.getD "")) :=
    (opens_block _ _).shorten (by decide)
  have hload : Opens correctionWords ["preserve",
      "import delimited using " ++ inQuotes file ++ ", clear varnames(1) stringcols(_all)",
      "local n_corrections = _N"] := by
    simp [Opens, Starts, correctionWords]
  have hrestore : Opens correctionWords ["restore"] := by decide
  refine ⟨_, ?_, ((hload.append hread).append hrestore).append happly⟩
  rw [corrections, h]
  rfl

theorem opens_corrections (p : Parameters) :
    Opens (["* Corrections"] ++ correctionWords) (corrections p) := by
  cases hfile : p.correctionsFile with
  | none =>
    rw [corrections, hfile]
    exact List.forall_mem_nil _
  | some file =>
    obtain ⟨below, hbelow, hopens⟩ := exists_corrections hfile
    rw [hbelow]
    exact Opens.join (by decide) hopens

/-- The words that open the lines of the search for duplicates. -/
def duplicateWords : List String := ["* Duplicate ", "duplicates tag ", "list ", "drop "]

theorem opens_duplicateIds (p : Parameters) : Opens duplicateWords (duplicateIds p) := by
  simp [Opens, Starts, duplicateIds, duplicateWords]

/-- The words that open the lines of what is done with the survey dataset first. -/
def setupWords : List String :=
  ["keep if "] ++ (["* Corrections"] ++ correctionWords) ++ duplicateWords

/-- The filter, the corrections and the search for duplicates, in this order. -/
theorem opens_surveySetup (p : Parameters) : Opens setupWords (surveySetup p) :=
  ((opens_successFilter p).join (opens_corrections p)).join (opens_duplicateIds p)

/-- The words that open the lines of the enumerators' comments. -/
def commentWords : List String := ["* Enumerator", "capture", "if !_rc"] ++ inner

theorem opens_comments (ids : String) (p : Parameters) :
    Opens commentWords (comments ids p) := by
  unfold comments
  cases p.enumeratorComments with
  | none => simp [Opens]
  | some v =>
    refine Opens.append ?_ ((opens_block _ _).mono (by decide))
    simp [Opens, Starts, commentWords]

/-! ## Sections -/

/-- A section that loops over a list of variables, after some lines `before` the loop. -/
def listSection (heading list : String) (names before body : List String) : List String :=
  sectionOf heading names fun ns => before ++ loop list ns body

/-- The heading of the section that checks select-one variables. -/
def selectOneHeading : String := "* Select-one values outside the choice list"

/-- The section that checks select-one variables. -/
def selectOneSection (f : Form) (ids : String) (names : List String) : List String :=
  sectionOf "Select-one values outside the choice list" names
    fun ns => ns.flatMap (selectOneCheck f ids)

/-- The line that keeps variables in a list. -/
def listLine (list : String) (names : List String) : String :=
  "local " ++ list ++ " \"" ++ spaced names ++ "\""

/-- Of the six sections, five loop over a list, and the one for select-one variables checks each by
itself. -/
theorem kindSections_eq (f : Form) (d : Dataset) (p : Parameters) :
    kindSections f d p =
      listSection "Text responses" "string_vars" (f.catalog.names d.name .string) []
          [listing (identifiers d p) "`var'" "!missing(`var')"] ++
        selectOneSection f (identifiers d p) (f.catalog.names d.name .selectOne) ++
        listSection "Select-multiple tabulations" "multiple_vars"
          (f.catalog.names d.name .selectMultiple) [] ["tab `var', missing"] ++
        listSection "Dates in the future" "date_vars" (f.catalog.names d.name .date) []
          [listing (identifiers d p) "`var'" "`var' > today() & !missing(`var')"] ++
        listSection "Timestamps in the future" "datetime_vars" (f.catalog.names d.name .datetime)
          ["local now = clock(\"`c(current_date)' `c(current_time)'\", \"DMYhms\")"]
          [listing (identifiers d p) "`var'" "`var' > `now' & !missing(`var')"] ++
        listSection "Numeric dispersion (3 standard deviations)" "numeric_vars"
          (f.catalog.names d.name .numeric) [] (numericCheck d p (identifiers d p)) :=
  rfl

/-- The words that open the lines below the heading of a section with a loop. -/
def loopWords (list : String) : List String :=
  ["local now", "local " ++ list ++ " \"", "foreach"] ++ inner

theorem opens_heading (heading : String) : Opens ["* " ++ heading] ["", "* " ++ heading] := by
  simp [Opens, Starts]

theorem starts_listLine (list : String) (names : List String) :
    Starts ("local " ++ list ++ " \"") (listLine list names) := by
  simp [Starts, listLine]

/-- The name of the list stands behind the word that opens the loop. -/
theorem opens_foreach (list : String) (body : List String) :
    Opens ("foreach" :: inner) (block ("foreach var of local " ++ list) body) := by
  have hforeach : Starts "foreach" ("foreach var of local " ++ list) := by simp [Starts]
  exact (opens_block _ _).shorten_head hforeach

theorem opens_loop (list : String) (names body : List String) :
    Opens (["local " ++ list ++ " \"", "foreach"] ++ inner) (loop list names body) := by
  have hline : Opens ["local " ++ list ++ " \""] [listLine list names] :=
    List.forall_mem_singleton.mpr
      (Or.inr ⟨_, List.mem_cons_self .., starts_listLine list names⟩)
  exact (hline.mono (by simp)).append ((opens_foreach list _).mono (by simp))

/-- The lines of a section with a loop open with its heading, with the line before the loop if there
is one, or with the words of the loop. -/
theorem opens_listSection (hbefore : Opens ["local now"] before) :
    Opens (["* " ++ heading] ++ loopWords list)
      (listSection heading list names before body) := by
  unfold listSection sectionOf
  split
  · simp [Opens]
  · exact (opens_heading heading).join (hbefore.join (opens_loop list names body))

/-- Most marks are apart from every heading by its star. -/
theorem opens_listSection_star (hbefore : Opens ["local now"] before) :
    Opens ("* " :: loopWords list) (listSection heading list names before body) :=
  (opens_listSection hbefore).shorten_head (starts_append ..)

/-- The words that open the lines of checks of select-one variables. -/
def checkWords : List String := ["capture", "if !_rc"] ++ inner

theorem opens_selectOneChecks (f : Form) (ids : String) (names : List String) :
    Opens checkWords (names.flatMap (selectOneCheck f ids)) := by
  intro l hl
  obtain ⟨n, -, hl⟩ := List.mem_flatMap.mp hl
  refine Opens.append ?_ ((opens_block _ _).mono (by decide)) l hl
  simp [Opens, Starts, checkWords]

theorem opens_selectOneSection (f : Form) (ids : String) (names : List String) :
    Opens ([selectOneHeading] ++ checkWords)
      (selectOneSection f ids names) := by
  unfold selectOneSection sectionOf
  split
  · simp [Opens]
  · exact (opens_heading _).join (opens_selectOneChecks f ids names)

theorem marked_listSection_eq_nil (hbefore : Opens ["local now"] before)
    (hapart : Apart mark ("* " :: loopWords list)) :
    marked mark (listSection heading list names before body) = [] :=
  marked_eq_nil hapart (opens_listSection_star hbefore)

theorem marked_selectOneSection_eq_nil {f : Form}
    (hapart : Apart mark ([selectOneHeading] ++ checkWords)) :
    marked mark (selectOneSection f ids names) = [] :=
  marked_eq_nil hapart (opens_selectOneSection f ids names)

/-- The line that keeps the variables of a section is the only one of its section that starts as it
does. -/
theorem marked_listSection (hbefore : Opens ["local now"] before)
    (hapart : Apart ("local " ++ list ++ " \"") (["* ", "local now", "foreach"] ++ inner)) :
    marked ("local " ++ list ++ " \"") (listSection heading list names before body) =
      if names.isEmpty then [] else [listLine list names] := by
  unfold listSection sectionOf
  split
  · rfl
  · have hstar : Opens ["* "] ["", "* " ++ heading] :=
      (opens_heading heading).shorten (by simp [Starts])
    have hheading := marked_eq_nil hapart (hstar.mono (by simp))
    have hnow := marked_eq_nil hapart (hbefore.mono (by simp))
    have hblock := marked_eq_nil hapart ((opens_foreach list
      (["capture confirm variable `var'", "if _rc continue"] ++ body)).mono (by simp))
    have hloop : loop list names body = listLine list names ::
        block ("foreach var of local " ++ list)
          (["capture confirm variable `var'", "if _rc continue"] ++ body) := rfl
    rw [marked_append, marked_append, hheading, hnow, hloop,
      marked_cons_of_starts (starts_listLine ..), hblock]
    rfl

/-- The heading of the select-one section stands once in it. -/
theorem marked_selectOneSection (f : Form) (ids : String) (names : List String) :
    marked selectOneHeading (selectOneSection f ids names) =
      if names.isEmpty then [] else [selectOneHeading] := by
  unfold selectOneSection sectionOf
  split
  · rfl
  · have hchecks : marked selectOneHeading (names.flatMap (selectOneCheck f ids)) = [] :=
      marked_eq_nil (by decide) (opens_selectOneChecks f ids names)
    rw [marked_append, hchecks, List.append_nil]
    rfl

end Pieces

end SurveyChecks.Script
