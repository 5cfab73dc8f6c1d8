import SurveyChecks.Proofs.Checks.Mirror
import SurveyChecks.Proofs.Text.Trimming

/-!
# Blocks in scripts

The lines of a script form blocks. A line that ends in an opening brace opens one, and a line that
is nothing but a closing brace closes one. When no text that stands in a script holds a brace, no
block is closed before it is opened, and none is open where the part of a dataset starts nor at the
end of the script.
-/

namespace SurveyChecks.Script

open SurveyChecks.Text

/-! ## Open blocks -/

/-- Whether a line opens a block: it ends in an opening brace. -/
def opensBlock (l : String) : Bool := l.toList.getLast? == some '\x7b'

/-- Whether a line closes a block: it is a closing brace, perhaps between blanks. -/
def closesBlock (l : String) : Bool := strip l == "\x7d"

/-- The number of blocks that are open after lines: those opened less those closed. -/
def openBlocks (ls : List String) : Int := (ls.countP opensBlock : Int) - ls.countP closesBlock

/-- No block is closed before it is opened, and in the end all of them are closed. -/
structure Balanced (ls : List String) : Prop where
  nonneg : ∀ above, above <+: ls → 0 ≤ openBlocks above
  closed : openBlocks ls = 0

/-- A line neither opens nor closes a block. -/
def IsFlat (l : String) : Prop := opensBlock l = false ∧ closesBlock l = false

section Balanced

variable {l : String} {ls ls' : List String}

@[simp] theorem openBlocks_nil : openBlocks [] = 0 := rfl

@[simp] theorem openBlocks_append : openBlocks (ls ++ ls') = openBlocks ls + openBlocks ls' := by
  simp only [openBlocks, List.countP_append]
  omega

theorem openBlocks_cons : openBlocks (l :: ls) = openBlocks [l] + openBlocks ls :=
  @openBlocks_append [l] ls

theorem openBlocks_of_flat (h : ∀ l ∈ ls, IsFlat l) : openBlocks ls = 0 := by
  have hopens : ls.countP opensBlock = 0 :=
    List.countP_eq_zero.mpr fun l hl => by simp [(h l hl).1]
  have hcloses : ls.countP closesBlock = 0 :=
    List.countP_eq_zero.mpr fun l hl => by simp [(h l hl).2]
  rw [openBlocks, hopens, hcloses]
  rfl

theorem balanced_of_flat (h : ∀ l ∈ ls, IsFlat l) : Balanced ls where
  nonneg _ habove := (openBlocks_of_flat fun l hl => h l (habove.subset hl)).ge
  closed := openBlocks_of_flat h

theorem balanced_nil : Balanced [] := balanced_of_flat (by simp)

theorem balanced_flat (h : IsFlat l) : Balanced [l] :=
  balanced_of_flat (List.forall_mem_singleton.mpr h)

/-- A beginning of two pieces ends in the first, where none is open below zero, or it has all of the
first, after which none is open. -/
theorem Balanced.append (h : Balanced ls) (h' : Balanced ls') : Balanced (ls ++ ls') where
  nonneg above habove := by
    rcases List.prefix_or_prefix_of_prefix habove (List.prefix_append ls ls') with hin | ⟨rest, rfl⟩
    · exact h.nonneg above hin
    · have hrest := h'.nonneg rest ((List.prefix_append_right_inj ls).mp habove)
      rw [openBlocks_append, h.closed]
      omega
  closed := by
    rw [openBlocks_append, h.closed, h'.closed]
    rfl

theorem Balanced.cons (h : IsFlat l) (h' : Balanced ls) : Balanced (l :: ls) :=
  (balanced_flat h).append h'

theorem balanced_flatMap {α : Type} {f : α → List String} {xs : List α}
    (h : ∀ x ∈ xs, Balanced (f x)) : Balanced (xs.flatMap f) := by
  induction xs with
  | nil => exact balanced_nil
  | cons x xs ih =>
    obtain ⟨hx, hxs⟩ := List.forall_mem_cons.mp h
    rw [List.flatMap_cons]
    exact hx.append (ih hxs)

end Balanced

/-! ## Lines -/

/-- A text says something: it has a character that is neither blank nor a closing brace. -/
def Speaks (s : String) : Prop := ∃ c ∈ s.toList, isBlank c = false ∧ c ≠ '\x7d'

section Lines

variable {l w s t : String} {ls body : List String} {cs : List Char}

theorem opensBlock_append_of_ne (h : t ≠ "") : opensBlock (s ++ t) = opensBlock t := by
  have hne : t.toList ≠ [] := by simpa using h
  rw [opensBlock, opensBlock, String.toList_append, List.getLast?_append_of_ne_nil _ hne]

theorem opensBlock_append (hs : opensBlock s = false) (ht : opensBlock t = false) :
    opensBlock (s ++ t) = false := by
  by_cases h : t = ""
  · rwa [h, String.append_empty]
  · rwa [opensBlock_append_of_ne h]

/-- Of a text that is written out the characters decide. -/
theorem opensBlock_ofList (h : cs.getLast? ≠ some '\x7b') :
    opensBlock (String.ofList cs) = false := by
  rw [opensBlock, String.toList_ofList]
  exact beq_eq_false_iff_ne.mpr h

theorem opensBlock_append_ofList (s : String) (h : cs ≠ [] ∧ cs.getLast? ≠ some '\x7b') :
    opensBlock (s ++ String.ofList cs) = false := by
  have hne : String.ofList cs ≠ "" := by simpa using h.1
  rw [opensBlock_append_of_ne hne]
  exact opensBlock_ofList h.2

/-- Of a line that is written out the characters decide. -/
theorem isFlat_ofList (h : cs.getLast? ≠ some '\x7b' ∧ stripChars cs ≠ ['\x7d']) :
    IsFlat (String.ofList cs) := by
  refine ⟨opensBlock_ofList h.1, beq_eq_false_iff_ne.mpr fun heq => h.2 ?_⟩
  rw [strip, String.toList_ofList] at heq
  exact String.ofList_injective heq

theorem isFlat_empty : IsFlat "" := isFlat_ofList (by decide)

/-- A text without an opening brace does not end in one. -/
theorem opensBlock_of_not_mem (h : '\x7b' ∉ s.toList) : opensBlock s = false :=
  beq_eq_false_iff_ne.mpr fun hlast => h (List.mem_of_getLast? hlast)

/-- A line that closes a block has nothing else. -/
theorem closesBlock_of_speaks (h : Speaks l) : closesBlock l = false := by
  obtain ⟨c, hc, hsolid, hne⟩ := h
  refine beq_eq_false_iff_ne.mpr fun heq => hne ?_
  have hin : c ∈ (strip l).toList := by
    rw [strip, String.toList_ofList]
    exact mem_stripChars_of_not_blank hc hsolid
  rw [heq] at hin
  exact List.mem_singleton.mp hin

theorem Speaks.of_starts (hw : Speaks w) (h : Starts w l) : Speaks l := by
  obtain ⟨c, hc, hsolid⟩ := hw
  exact ⟨c, h.subset hc, hsolid⟩

theorem speaks_ofList (h : cs.any fun c => !isBlank c && c != '\x7d') :
    Speaks (String.ofList cs) := by
  rw [Speaks, String.toList_ofList]
  simpa using h

/-- A line that starts with something said is flat when it does not end in an opening brace. -/
theorem isFlat_of_starts (hw : Speaks w) (h : Starts w l) (hopens : opensBlock l = false) :
    IsFlat l :=
  ⟨hopens, closesBlock_of_speaks (hw.of_starts h)⟩

/-! ## Blocks -/

/-- A heading opens one block, whatever stands in it: the brace is its last character. -/
theorem openBlocks_heading (heading : String) : openBlocks [heading ++ " \x7b"] = 1 := by
  have hopens : opensBlock (heading ++ " \x7b") = true := by
    rw [opensBlock_append_of_ne (by decide)]
    decide
  have hcloses : closesBlock (heading ++ " \x7b") = false :=
    closesBlock_of_speaks ⟨'\x7b', by simp, by decide, by decide⟩
  simp [openBlocks, hopens, hcloses]

/-- Indenting neither opens nor closes: a brace stays at the end of its line, and blanks before it
do not count. -/
theorem openBlocks_indented (ls : List String) : openBlocks (indented ls) = openBlocks ls := by
  have hopens : opensBlock ∘ ("    " ++ ·) = opensBlock := by
    funext l
    by_cases hl : l = ""
    · rw [hl]
      decide
    · exact opensBlock_append_of_ne hl
  have hcloses : closesBlock ∘ ("    " ++ ·) = closesBlock := by
    funext l
    simp [closesBlock, strip, stripChars, isBlank]
  rw [openBlocks, indented, List.countP_map, List.countP_map, hopens, hcloses]
  rfl

theorem Balanced.indented (h : Balanced ls) : Balanced (indented ls) where
  nonneg above habove := by
    obtain ⟨above', habove', rfl⟩ := List.prefix_map_iff.mp habove
    exact (h.nonneg above' habove').trans (openBlocks_indented above').ge
  closed := (openBlocks_indented ls).trans h.closed

/-- A block is balanced when the lines inside it are. -/
theorem balanced_block (heading : String) (h : Balanced body) : Balanced (block heading body) := by
  have hlast : openBlocks ["\x7d"] = -1 := by decide
  have hclosed : openBlocks (block heading body) = 0 := by
    rw [block, openBlocks_append, openBlocks_append, openBlocks_heading, h.indented.closed, hlast]
    rfl
  refine ⟨fun above habove => ?_, hclosed⟩
  -- a beginning of the block is all of it, or it is empty, or it ends inside the block
  rcases List.prefix_concat_iff.mp habove with rfl | habove
  · exact hclosed.ge
  · rcases List.prefix_cons_iff.mp habove with rfl | ⟨inside, rfl, hinside⟩
    · rfl
    · have hnonneg := h.indented.nonneg inside hinside
      rw [openBlocks_cons, openBlocks_heading]
      omega

end Lines

/-! ## Pieces -/

section Pieces

variable {f : Form} {p : Parameters} {d : Dataset} {ids name w : String}
  {list heading : String} {names before body : List String}

/-- Behind a text in quotes a quote stands, so that the text may well have braces. -/
theorem opensBlock_append_inQuotes (w t : String) : opensBlock (w ++ inQuotes t) = false := by
  rw [inQuotes, ← String.append_assoc]
  exact opensBlock_append_ofList _ (by decide)

theorem opensBlock_listing (ids name condition : String) :
    opensBlock (listing ids name condition) = false := by
  rw [listing]
  exact opensBlock_append_ofList _ (by decide)

theorem balanced_listing (ids name condition : String) :
    Balanced [listing ids name condition] := by
  have hstarts : Starts "list " (listing ids name condition) := by simp [Starts, listing]
  exact balanced_flat
    (isFlat_of_starts (speaks_ofList (by decide)) hstarts (opensBlock_listing ..))

/-- A loop keeps its variables in a line and has one block. -/
theorem balanced_loop (h : Balanced body) : Balanced (loop list names body) := by
  have hlist : Balanced [listLine list names] := by
    have hstarts : Starts "local " (listLine list names) := by simp [Starts, listLine]
    exact balanced_flat (isFlat_of_starts (speaks_ofList (by decide)) hstarts
      (opensBlock_append_ofList _ (by decide)))
  have hskip : Balanced ["capture confirm variable `var'", "if _rc continue"] :=
    .cons (isFlat_ofList (by decide)) (balanced_flat (isFlat_ofList (by decide)))
  exact hlist.append (balanced_block _ (hskip.append h))

theorem balanced_sectionOf {section_ : List String → List String}
    (hheading : opensBlock heading = false) (h : Balanced (section_ names)) :
    Balanced (sectionOf heading names section_) := by
  unfold sectionOf
  split
  · exact balanced_nil
  · have hline : IsFlat ("* " ++ heading) :=
      isFlat_of_starts (speaks_ofList (by decide)) (starts_append ..)
        (opensBlock_append (opensBlock_ofList (by decide)) hheading)
    exact ((balanced_flat hline).cons isFlat_empty).append h

theorem balanced_confirm (hname : opensBlock name = false) :
    Balanced ["capture confirm variable " ++ name] :=
  balanced_flat (isFlat_of_starts (speaks_ofList (by decide)) (starts_append ..)
    (opensBlock_append (opensBlock_ofList (by decide)) hname))

/-- A check is a line and a block, when the name of the variable, with which the line ends, does not
end in a brace. -/
theorem balanced_selectOneCheck (hname : opensBlock name = false) :
    Balanced (selectOneCheck f ids name) := by
  have htab : Balanced ["tab " ++ name ++ ", missing"] := by
    have hstarts : Starts "tab " ("tab " ++ name ++ ", missing") := by simp [Starts]
    exact balanced_flat (isFlat_of_starts (speaks_ofList (by decide)) hstarts
      (opensBlock_append_ofList _ (by decide)))
  refine (balanced_confirm hname).append (balanced_block _ ?_)
  split
  · exact htab
  · exact balanced_listing ..

theorem balanced_numericCheck : Balanced (numericCheck d p ids) := by
  have hhistogram : Balanced (histogram d p) := by
    unfold histogram
    cases p.graphicsDir with
    | none => exact balanced_nil
    | some dir =>
      refine .cons (isFlat_ofList (by decide)) (balanced_flat ?_)
      refine isFlat_of_starts (w := "graph ") (speaks_ofList (by decide)) ?_
        (opensBlock_append_ofList _ (by decide))
      simp [Starts]
  have hsummary : Balanced ["quietly summarize `var'"] := balanced_flat (isFlat_ofList (by decide))
  exact (hsummary.append (balanced_block _ (balanced_listing ..))).append hhistogram

theorem balanced_kindSections
    (hnames : ∀ n ∈ f.catalog.names d.name .selectOne, opensBlock n = false) :
    Balanced (kindSections f d p) := by
  have hnow : Balanced
      ["local now = clock(\"`c(current_date)' `c(current_time)'\", \"DMYhms\")"] :=
    balanced_flat (isFlat_ofList (by decide))
  have htab : Balanced ["tab `var', missing"] := balanced_flat (isFlat_ofList (by decide))
  refine (((((Balanced.append ?string ?selectOne).append ?selectMultiple).append ?date).append
    ?datetime).append ?numeric)
  case string =>
    exact balanced_sectionOf (opensBlock_ofList (by decide)) (balanced_loop (balanced_listing ..))
  case selectOne =>
    exact balanced_sectionOf (opensBlock_ofList (by decide))
      (balanced_flatMap fun n hn => balanced_selectOneCheck (hnames n hn))
  case selectMultiple =>
    exact balanced_sectionOf (opensBlock_ofList (by decide)) (balanced_loop htab)
  case date =>
    exact balanced_sectionOf (opensBlock_ofList (by decide)) (balanced_loop (balanced_listing ..))
  case datetime =>
    exact balanced_sectionOf (opensBlock_ofList (by decide))
      (hnow.append (balanced_loop (balanced_listing ..)))
  case numeric =>
    exact balanced_sectionOf (opensBlock_ofList (by decide)) (balanced_loop balanced_numericCheck)

/-- The variable of the comments is a setting, and stands at the end of a line. -/
theorem balanced_comments (hp : ∀ t ∈ p.texts, opensBlock t = false) :
    Balanced (comments ids p) := by
  unfold comments
  cases hv : p.enumeratorComments with
  | none => exact balanced_nil
  | some v =>
    have hheading : Balanced ["", "* Enumerator comments"] :=
      (balanced_flat (isFlat_ofList (by decide))).cons isFlat_empty
    have hconfirm := balanced_confirm (hp v (by simp [Parameters.texts, hv]))
    exact (hheading.append hconfirm).append (balanced_block _ (balanced_listing ..))

theorem balanced_applyCorrections (key : String) : Balanced (applyCorrections key) := by
  have hreplace : ∀ s, Speaks s → Balanced [s ++ correctedRow key] := by
    intro s hs
    refine balanced_flat (isFlat_of_starts hs (starts_append ..) ?_)
    rw [correctedRow, ← String.append_assoc]
    exact opensBlock_append_ofList _ (by decide)
  have hconfirm : Balanced ["capture confirm string variable `corr_var`i''"] :=
    balanced_flat (isFlat_ofList (by decide))
  exact balanced_block _ ((hconfirm.append
    (balanced_block _ (hreplace _ (speaks_ofList (by decide))))).append
    (balanced_block _ (hreplace _ (speaks_ofList (by decide)))))

/-- Corrections come from a file whose name stands in quotes, so that they are balanced whatever the
settings are. -/
theorem balanced_corrections (p : Parameters) : Balanced (corrections p) := by
  unfold corrections
  cases p.correctionsFile with
  | none => exact balanced_nil
  | some file =>
    have hload : Balanced ["", "* Corrections", "preserve",
        "import delimited using " ++ inQuotes file ++ ", clear varnames(1) stringcols(_all)",
        "local n_corrections = _N"] := by
      have himport : IsFlat ("import delimited using " ++ inQuotes file ++
          ", clear varnames(1) stringcols(_all)") :=
        isFlat_of_starts (w := "import ") (speaks_ofList (by decide)) (by simp [Starts])
          (opensBlock_append_ofList _ (by decide))
      exact .cons isFlat_empty (.cons (isFlat_ofList (by decide)) (.cons (isFlat_ofList (by decide))
        (.cons himport (balanced_flat (isFlat_ofList (by decide))))))
    have hread : Balanced readCorrections :=
      balanced_block _ (.cons (isFlat_ofList (by decide)) (.cons (isFlat_ofList (by decide))
        (balanced_flat (isFlat_ofList (by decide)))))
    have hrestore : Balanced ["restore"] := balanced_flat (isFlat_ofList (by decide))
    exact ((hload.append hread).append hrestore).append (balanced_applyCorrections _)

theorem balanced_duplicateIds (p : Parameters) : Balanced (duplicateIds p) := by
  have htag : IsFlat ("duplicates tag " ++ spaced p.uniqueIds ++ ", generate(_hfc_dup)") :=
    isFlat_of_starts (w := "duplicates ") (speaks_ofList (by decide)) (by simp [Starts])
      (opensBlock_append_ofList _ (by decide))
  have hlist : IsFlat ("list " ++ p.enumeratorId ++ " " ++ spaced p.uniqueIds ++
      " if _hfc_dup > 0, " ++ listOptions) :=
    isFlat_of_starts (w := "list ") (speaks_ofList (by decide)) (by simp [Starts])
      (opensBlock_append_ofList _ (by decide))
  exact .cons isFlat_empty (.cons (isFlat_ofList (by decide)) (.cons htag (.cons hlist
    (balanced_flat (isFlat_ofList (by decide))))))

theorem balanced_surveySetup (hp : ∀ t ∈ p.texts, opensBlock t = false) :
    Balanced (surveySetup p) := by
  have hfilter : Balanced (successFilter p) := by
    refine balanced_of_flat fun l hl => ?_
    obtain ⟨t, ht, rfl⟩ := List.mem_map.mp hl
    exact isFlat_of_starts (speaks_ofList (by decide)) (starts_append ..)
      (opensBlock_append (opensBlock_ofList (by decide)) (hp t (by simp [Parameters.texts, ht])))
  exact (hfilter.append (balanced_corrections p)).append (balanced_duplicateIds p)

theorem balanced_opening (hname : opensBlock d.name = false) : Balanced (opening d) := by
  have hrule : IsFlat rule := isFlat_ofList (by decide)
  have hline : IsFlat ("* Dataset: " ++ d.name) :=
    isFlat_of_starts (speaks_ofList (by decide)) (starts_append ..)
      (opensBlock_append (opensBlock_ofList (by decide)) hname)
  have huse : IsFlat ("use " ++ inQuotes d.reference ++ ", clear") :=
    isFlat_of_starts (w := "use ") (speaks_ofList (by decide)) (by simp [Starts])
      (opensBlock_append_ofList _ (by decide))
  exact .cons isFlat_empty (.cons hrule (.cons hline (.cons hrule (balanced_flat huse))))

/-- The part of a dataset is balanced when neither its name nor a variable nor a parameter ends in
an opening brace. -/
theorem balanced_part (hname : opensBlock d.name = false)
    (hnames : ∀ n ∈ f.catalog.names d.name .selectOne, opensBlock n = false)
    (hp : ∀ t ∈ p.texts, opensBlock t = false) : Balanced (part f p d) := by
  have hsetup : Balanced (if d.name = surveyDataset then surveySetup p else []) := by
    split
    · exact balanced_surveySetup hp
    · exact balanced_nil
  have hcomments :
      Balanced (if d.name = surveyDataset then comments (identifiers d p) p else []) := by
    split
    · exact balanced_comments hp
    · exact balanced_nil
  exact (((balanced_opening hname).append hsetup).append (balanced_kindSections hnames)).append
    hcomments

theorem isFlat_append_inQuotes (hw : Speaks w) (t : String) : IsFlat (w ++ inQuotes t) :=
  isFlat_of_starts hw (starts_append ..) (opensBlock_append_inQuotes ..)

/-- In the preamble the name of the form and its path end a line each, and the other texts stand in
quotes. -/
theorem balanced_preamble (hname : opensBlock f.name = false)
    (hp : ∀ t ∈ p.texts, opensBlock t = false) : Balanced (preamble f p) := by
  have htitle : IsFlat ("* High-frequency checks for " ++ f.name) :=
    isFlat_of_starts (speaks_ofList (by decide)) (starts_append ..)
      (opensBlock_append (opensBlock_ofList (by decide)) hname)
  have hsource : IsFlat ("* Generated by hfcgen 0.1.0 from " ++ p.instrument) :=
    isFlat_of_starts (speaks_ofList (by decide)) (starts_append ..)
      (opensBlock_append (opensBlock_ofList (by decide))
        (hp p.instrument (by simp [Parameters.texts])))
  have hdirectory : IsFlat ("cd " ++ inQuotes p.workingDir) :=
    isFlat_append_inQuotes (speaks_ofList (by decide)) _
  have hlog : IsFlat ("log using " ++ inQuotes (PathName.stem p.output ++ ".log") ++
      ", text replace") :=
    isFlat_of_starts (w := "log ") (speaks_ofList (by decide)) (by simp [Starts])
      (opensBlock_append_ofList _ (by decide))
  have hgraphics :
      Balanced (p.graphicsDir.toList.map fun dir => "capture mkdir " ++ inQuotes dir) := by
    refine balanced_of_flat fun l hl => ?_
    obtain ⟨dir, -, rfl⟩ := List.mem_map.mp hl
    exact isFlat_append_inQuotes (speaks_ofList (by decide)) dir
  refine Balanced.append ?_ hgraphics
  exact .cons htitle (.cons hsource (.cons isFlat_empty (.cons (isFlat_ofList (by decide))
    (.cons (isFlat_ofList (by decide)) (.cons hdirectory (.cons (isFlat_ofList (by decide))
      (balanced_flat hlog)))))))

end Pieces

/-! ## Scripts -/

/-- The texts of a form and of settings that stand in a script. -/
def interpolatedTexts (f : Form) (s : Settings) : List String :=
  f.name :: (f.datasets.flatMap fun d => [d.name, d.reference]) ++ f.questions.map (·.name) ++
    s.texts

/-- A text holds no brace. -/
def IsBraceless (s : String) : Prop := '\x7b' ∉ s.toList ∧ '\x7d' ∉ s.toList

instance : DecidablePred IsBraceless := fun s =>
  inferInstanceAs (Decidable ('\x7b' ∉ s.toList ∧ '\x7d' ∉ s.toList))

/-- The lines of a script form blocks. -/
structure FormsBlocks (f : Form) (p : Parameters) (ls : List String) : Prop where
  /-- No block is closed before it is opened, and in the end all of them are closed. -/
  balanced : Balanced ls
  /-- No block is open where the part of a dataset starts. -/
  parts : ∀ before d after, f.datasets = before ++ d :: after → ∃ above below,
    ls = above ++ part f p d ++ below ∧ above = preamble f p ++ before.flatMap (part f p) ∧
      openBlocks above = 0

section Scripts

variable {survey choices : Sheet} {name : String} {f : Form} {s : Settings} {p : Parameters}

theorem formsBlocks_lines (hname : opensBlock f.name = false)
    (hdatasets : ∀ d ∈ f.datasets, opensBlock d.name = false)
    (hnames : ∀ d k, ∀ n ∈ f.catalog.names d k, opensBlock n = false)
    (hp : ∀ t ∈ p.texts, opensBlock t = false) : FormsBlocks f p (lines f p) := by
  have hpreamble := balanced_preamble hname hp
  have hpart : ∀ d ∈ f.datasets, Balanced (part f p d) := fun d hd =>
    balanced_part (hdatasets d hd) (hnames d.name _) hp
  have hend : Balanced ["", "log close", ""] :=
    .cons isFlat_empty (.cons (isFlat_ofList (by decide)) (balanced_flat isFlat_empty))
  refine ⟨(hpreamble.append (balanced_flatMap hpart)).append hend, fun before d after hsplit => ?_⟩
  have hbefore : Balanced (before.flatMap (part f p)) :=
    balanced_flatMap fun d' hd' => hpart d' (hsplit ▸ List.mem_append_left _ hd')
  refine ⟨_, after.flatMap (part f p) ++ ["", "log close", ""], ?_, rfl,
    (hpreamble.append hbefore).closed⟩
  rw [lines, hsplit]
  simp only [List.flatMap_append, List.flatMap_cons, List.append_assoc]

/-- When no text that stands in a script holds a line feed or a brace, the lines of the script form
blocks. -/
theorem ofSettings_formsBlocks (hf : Form.parse survey choices name = .ok f) (hs : s.IsValid)
    (htexts : ∀ t ∈ interpolatedTexts f s, IsOneLine t ∧ IsBraceless t) :
    ∃ t, ofSettings f s = .ok t ∧ FormsBlocks f s.asParameters (Text.lines t) := by
  simp only [interpolatedTexts, List.forall_mem_append, List.forall_mem_cons,
    List.forall_mem_flatMap, List.forall_mem_map] at htexts
  obtain ⟨⟨⟨hname, hdatasets⟩, hquestions⟩, hparameters⟩ := htexts
  have hplain : HasPlainTexts f s :=
    ⟨hname.1, fun d hd => (hdatasets d hd).1.1, fun q hq => (hquestions q hq).1,
      fun t ht => (hparameters t ht).1⟩
  have hends : ∀ {t}, IsBraceless t → opensBlock t = false := fun ht => opensBlock_of_not_mem ht.1
  refine ⟨_, ofSettings_of_parse hf hs, ?_⟩
  rw [lines_text hf hplain]
  refine formsBlocks_lines (hends hname.2) (fun d hd => hends (hdatasets d hd).1.2) ?_
    fun t ht => hends (hparameters t (texts_asParameters ht)).2
  intro d k n hn
  obtain ⟨q, hq, -, -, rfl⟩ := exists_question_of_mem_names hf hn
  exact hends (hquestions q hq).2

/-- A script of three datasets with corrections. -/
theorem ofSettings_formsBlocks_nestedSurvey :
    Form.parse Form.nestedSurvey Form.noChoices "visits" = .ok (Form.nestedForm "visits") ∧
      Settings.visits.IsValid ∧
      (∀ t ∈ interpolatedTexts (Form.nestedForm "visits") Settings.visits,
        IsOneLine t ∧ IsBraceless t) ∧
      ∃ t, ofSettings (Form.nestedForm "visits") Settings.visits = .ok t ∧
        FormsBlocks (Form.nestedForm "visits") Settings.visits.asParameters (Text.lines t) := by
  have htexts : ∀ t ∈ interpolatedTexts (Form.nestedForm "visits") Settings.visits,
      IsOneLine t ∧ IsBraceless t := by
    decide +kernel
  exact ⟨Form.parse_nestedSurvey _, Settings.isValid_visits, htexts,
    ofSettings_formsBlocks (Form.parse_nestedSurvey _) Settings.isValid_visits htexts⟩

end Scripts

end SurveyChecks.Script
