import SurveyChecks.Checks.Script
import SurveyChecks.Proofs.Checks.Parameters
import SurveyChecks.Proofs.Form.Composition
import SurveyChecks.Proofs.Text.Lines

/-!
# The lines of a script

When no text that stands in a script holds a line feed, the lines that are read off the script are
the lines that it was made of: the preamble, the parts of the datasets and the end.
-/

namespace SurveyChecks

open SurveyChecks.Text

namespace Parameters

/-- The texts that stand in a script. -/
def texts (p : Parameters) : List String :=
  [p.instrument, p.output, p.workingDir, p.enumeratorId] ++ p.uniqueIds ++ p.graphicsDir.toList ++
    p.respondentName.toList ++ p.successCondition.toList ++ p.correctionsFile.toList ++
    p.enumeratorComments.toList

end Parameters

namespace Script

/-! ## Pieces of one line each -/

section Pieces

variable {s t : String} {ss ls names : List String}

/-- What stands between quotes is the text without its own quotes. -/
theorem isOneLine_inQuotes (h : IsOneLine s) : IsOneLine (inQuotes s) := by
  have := h.without (p := (· == '"'))
  simp +decide [inQuotes, this]

theorem isOneLine_spaced (h : ∀ s ∈ ss, IsOneLine s) : IsOneLine (spaced ss) :=
  isOneLine_intercalate (by decide) h

theorem isOneLine_listing {ids name condition : String} (hids : IsOneLine ids)
    (hname : IsOneLine name) (hcondition : IsOneLine condition) :
    IsOneLine (listing ids name condition) := by
  simp +decide [listing, hids, hname, hcondition]

theorem isOneLine_indented (h : ∀ l ∈ ls, IsOneLine l) : ∀ l ∈ indented ls, IsOneLine l := by
  intro l hl
  obtain ⟨l', hl', rfl⟩ := List.mem_map.mp hl
  exact isOneLine_append.mpr ⟨by decide, h l' hl'⟩

/-- A block has the line that opens it, the lines within, indented, and the one that closes it. -/
theorem isOneLine_block (hs : IsOneLine s) (h : ∀ l ∈ ls, IsOneLine l) :
    ∀ l ∈ block s ls, IsOneLine l := by
  have := isOneLine_indented h
  simp +decide only [block, List.forall_mem_append, List.forall_mem_singleton, isOneLine_append]
  exact ⟨⟨⟨hs, by decide⟩, this⟩, by decide⟩

/-- The names of a loop stand on the line above it. -/
theorem isOneLine_loop (hs : IsOneLine s) (hnames : ∀ n ∈ names, IsOneLine n)
    (h : ∀ l ∈ ls, IsOneLine l) : ∀ l ∈ loop s names ls, IsOneLine l := by
  have hspaced := isOneLine_spaced hnames
  have hbody : ∀ l ∈ ["capture confirm variable `var'", "if _rc continue"] ++ ls, IsOneLine l :=
    List.forall_mem_append.mpr ⟨List.forall_mem_cons.mpr ⟨isOneLine_ofList (by decide),
      List.forall_mem_singleton.mpr (isOneLine_ofList (by decide))⟩, h⟩
  have hheading : IsOneLine ("foreach var of local " ++ s) :=
    isOneLine_append.mpr ⟨isOneLine_ofList (by decide), hs⟩
  refine List.forall_mem_append.mpr ⟨?_, isOneLine_block hheading hbody⟩
  simp +decide [hs, hspaced]

theorem isOneLine_sectionOf {body : List String → List String} (hs : IsOneLine s)
    (h : ∀ l ∈ body names, IsOneLine l) : ∀ l ∈ sectionOf s names body, IsOneLine l := by
  unfold sectionOf
  split
  · simp
  · simp +decide [hs]
    exact h

end Pieces

/-! ## Parts of one line each -/

section Parts

variable {f : Form} {p : Parameters} {d : Dataset} {ids : String}

/-- The identifiers of the survey are settings, those of the other datasets are fixed. -/
theorem isOneLine_identifiers (hp : ∀ t ∈ p.texts, IsOneLine t) :
    IsOneLine (identifiers d p) := by
  unfold identifiers
  split
  · refine isOneLine_spaced fun t ht => hp t ?_
    simp only [List.mem_append, List.mem_singleton] at ht
    simp only [Parameters.texts, List.mem_append, List.mem_cons]
    tauto
  · decide

theorem isOneLine_successFilter (hp : ∀ t ∈ p.texts, IsOneLine t) :
    ∀ l ∈ successFilter p, IsOneLine l := by
  intro l hl
  obtain ⟨t, ht, rfl⟩ := List.mem_map.mp hl
  exact isOneLine_append.mpr ⟨by decide, hp t (by simp [Parameters.texts, ht])⟩

theorem isOneLine_applyCorrections {key : String} (hkey : IsOneLine key) :
    ∀ l ∈ applyCorrections key, IsOneLine l := by
  have hrow : IsOneLine (correctedRow key) := isOneLine_append.mpr ⟨hkey, isOneLine_ofList (by decide)⟩
  have hreplace : ∀ s, IsOneLine s → ∀ l ∈ [s ++ correctedRow key], IsOneLine l := fun s hs =>
    List.forall_mem_singleton.mpr (isOneLine_append.mpr ⟨hs, hrow⟩)
  have hconfirm : ∀ l ∈ ["capture confirm string variable `corr_var`i''"], IsOneLine l :=
    List.forall_mem_singleton.mpr (isOneLine_ofList (by decide))
  refine isOneLine_block (isOneLine_ofList (by decide)) (List.forall_mem_append.mpr
    ⟨List.forall_mem_append.mpr ⟨hconfirm, isOneLine_block (by decide) (hreplace _ ?_)⟩,
      isOneLine_block (by decide) (hreplace _ ?_)⟩)
  · exact isOneLine_ofList (by decide)
  · exact isOneLine_ofList (by decide)

/-- The file of corrections and the first unique id are the only texts of the settings in the
corrections; the rest is fixed. -/
theorem isOneLine_corrections (hp : ∀ t ∈ p.texts, IsOneLine t) :
    ∀ l ∈ corrections p, IsOneLine l := by
  unfold corrections
  cases hfile : p.correctionsFile with
  | none => simp
  | some file =>
    have hquoted := isOneLine_inQuotes (hp file (by simp [Parameters.texts, hfile]))
    have hkey : IsOneLine (p.uniqueIds.head?.getD "") := by
      cases hids : p.uniqueIds with
      | nil => decide
      | cons i is => exact hp i (by simp [Parameters.texts, hids])
    have hread : ∀ l ∈ readCorrections, IsOneLine l := by
      refine isOneLine_block (isOneLine_ofList (by decide)) (List.forall_mem_cons.mpr ⟨?_,
        List.forall_mem_cons.mpr ⟨?_, List.forall_mem_singleton.mpr ?_⟩⟩)
      all_goals exact isOneLine_ofList (by decide)
    have happly := isOneLine_applyCorrections hkey
    simp only [List.forall_mem_append]
    refine ⟨⟨⟨?_, hread⟩, by decide⟩, happly⟩
    simp +decide [hquoted]

theorem isOneLine_duplicateIds (hp : ∀ t ∈ p.texts, IsOneLine t) :
    ∀ l ∈ duplicateIds p, IsOneLine l := by
  have hids : IsOneLine (spaced p.uniqueIds) :=
    isOneLine_spaced fun t ht => hp t (by simp [Parameters.texts, ht])
  have henumerator := hp p.enumeratorId (by simp [Parameters.texts])
  simp +decide [duplicateIds, hids, henumerator]

theorem isOneLine_comments (hids : IsOneLine ids) (hp : ∀ t ∈ p.texts, IsOneLine t) :
    ∀ l ∈ comments ids p, IsOneLine l := by
  unfold comments
  cases hv : p.enumeratorComments with
  | none => simp
  | some v =>
    have hv := hp v (by simp [Parameters.texts, hv])
    have hcondition : IsOneLine ("!missing(" ++ v ++ ")") := by simp +decide [hv]
    have hlisting := isOneLine_listing hids hv hcondition
    refine List.forall_mem_append.mpr ⟨by simp +decide [hv], ?_⟩
    exact isOneLine_block (by decide) (List.forall_mem_singleton.mpr hlisting)

/-- The codes of a check are numerals, so only the identifiers and the name can bring a line feed.
-/
theorem isOneLine_selectOneCheck {name : String} (hids : IsOneLine ids) (hname : IsOneLine name) :
    ∀ l ∈ selectOneCheck f ids name, IsOneLine l := by
  have hcodes : IsOneLine (", ".intercalate (codesFor f name)) := by
    refine isOneLine_intercalate (by decide) fun t ht => ?_
    obtain ⟨c, -, rfl⟩ := List.mem_map.mp ht
    exact isOneLine_toString c.code
  refine List.forall_mem_append.mpr ⟨by simp +decide [hname], ?_⟩
  refine isOneLine_block (by decide) (List.forall_mem_singleton.mpr ?_)
  split
  · simp +decide [hname]
  · exact isOneLine_listing hids hname (by simp +decide [hname, hcodes])

/-- A histogram is saved under the reference of the dataset. -/
theorem isOneLine_numericCheck (hids : IsOneLine ids) (hd : IsOneLine d.reference)
    (hp : ∀ t ∈ p.texts, IsOneLine t) : ∀ l ∈ numericCheck d p ids, IsOneLine l := by
  have hhistogram : ∀ l ∈ histogram d p, IsOneLine l := by
    unfold histogram
    cases hdir : p.graphicsDir with
    | none => simp
    | some dir =>
      have hdir := hp dir (by simp [Parameters.texts, hdir])
      have hfile : IsOneLine (dir ++ "/" ++ d.reference ++ "_`var'.png") := by
        simp +decide [hdir, hd]
      simp +decide [isOneLine_inQuotes hfile]
  have hsummary : ∀ l ∈ ["quietly summarize `var'"], IsOneLine l :=
    List.forall_mem_singleton.mpr (isOneLine_ofList (by decide))
  refine List.forall_mem_append.mpr ⟨List.forall_mem_append.mpr ⟨hsummary, ?_⟩, hhistogram⟩
  exact isOneLine_block (by decide) (List.forall_mem_singleton.mpr
    (isOneLine_listing hids (by decide) (isOneLine_ofList (by decide))))

/-- The sections of a dataset, one for each kind: a fixed heading, and the names of the bucket. -/
theorem isOneLine_kindSections (hd : IsOneLine d.reference)
    (hnames : ∀ k, ∀ n ∈ f.catalog.names d.name k, IsOneLine n)
    (hp : ∀ t ∈ p.texts, IsOneLine t) : ∀ l ∈ kindSections f d p, IsOneLine l := by
  have hids := isOneLine_identifiers (d := d) hp
  have hlisting : ∀ condition, IsOneLine condition →
      ∀ l ∈ [listing (identifiers d p) "`var'" condition], IsOneLine l := fun _ hcondition =>
    List.forall_mem_singleton.mpr (isOneLine_listing hids (by decide) hcondition)
  simp only [kindSections, List.forall_mem_append]
  refine ⟨⟨⟨⟨⟨?string, ?selectOne⟩, ?selectMultiple⟩, ?date⟩, ?datetime⟩, ?numeric⟩
  case string =>
    exact isOneLine_sectionOf (isOneLine_ofList (by decide))
      (isOneLine_loop (by decide) (hnames _) (hlisting _ (isOneLine_ofList (by decide))))
  case selectOne =>
    refine isOneLine_sectionOf (isOneLine_ofList (by decide)) fun l hl => ?_
    obtain ⟨n, hn, hl⟩ := List.mem_flatMap.mp hl
    exact isOneLine_selectOneCheck hids (hnames _ n hn) l hl
  case selectMultiple =>
    exact isOneLine_sectionOf (isOneLine_ofList (by decide)) (isOneLine_loop (by decide) (hnames _)
      (List.forall_mem_singleton.mpr (isOneLine_ofList (by decide))))
  case date =>
    exact isOneLine_sectionOf (isOneLine_ofList (by decide))
      (isOneLine_loop (by decide) (hnames _) (hlisting _ (isOneLine_ofList (by decide))))
  case datetime =>
    exact isOneLine_sectionOf (isOneLine_ofList (by decide)) (List.forall_mem_append.mpr
      ⟨List.forall_mem_singleton.mpr (isOneLine_ofList (by decide)),
        isOneLine_loop (by decide) (hnames _) (hlisting _ (isOneLine_ofList (by decide)))⟩)
  case numeric =>
    exact isOneLine_sectionOf (isOneLine_ofList (by decide))
      (isOneLine_loop (by decide) (hnames _) (isOneLine_numericCheck hids hd hp))

/-- The lines of a dataset, when its name, its variables and the settings have no line feed. -/
theorem isOneLine_part (hname : IsOneLine d.name) (hd : IsOneLine d.reference)
    (hnames : ∀ k, ∀ n ∈ f.catalog.names d.name k, IsOneLine n)
    (hp : ∀ t ∈ p.texts, IsOneLine t) : ∀ l ∈ part f p d, IsOneLine l := by
  have hopening : ∀ l ∈ opening d, IsOneLine l := by
    have hquoted := isOneLine_inQuotes hd
    simp +decide [opening, hname, hquoted]
  have hsetup : ∀ l ∈ surveySetup p, IsOneLine l :=
    List.forall_mem_append.mpr ⟨List.forall_mem_append.mpr
      ⟨isOneLine_successFilter hp, isOneLine_corrections hp⟩, isOneLine_duplicateIds hp⟩
  have hcomments := isOneLine_comments (isOneLine_identifiers (d := d) hp) hp
  have hsections := isOneLine_kindSections hd hnames hp
  simp only [part, List.forall_mem_append]
  refine ⟨⟨⟨hopening, ?_⟩, hsections⟩, ?_⟩
  · split
    · exact hsetup
    · simp
  · split
    · exact hcomments
    · simp

/-- The preamble has the name of the form and its path, the directories, and the name of the log,
which is that of the output. -/
theorem isOneLine_preamble (hname : IsOneLine f.name) (hp : ∀ t ∈ p.texts, IsOneLine t) :
    ∀ l ∈ preamble f p, IsOneLine l := by
  have hinstrument := hp p.instrument (by simp [Parameters.texts])
  have hdir := isOneLine_inQuotes (hp p.workingDir (by simp [Parameters.texts]))
  have hstem := PathName.isOneLine_stem (hp p.output (by simp [Parameters.texts]))
  have hlog : IsOneLine (PathName.stem p.output ++ ".log") :=
    isOneLine_append.mpr ⟨hstem, by decide⟩
  refine List.forall_mem_append.mpr ⟨?_, fun l hl => ?_⟩
  · simp +decide [hname, hinstrument, hdir, isOneLine_inQuotes hlog]
  · obtain ⟨dir, hin, rfl⟩ := List.mem_map.mp hl
    have hquoted := isOneLine_inQuotes (hp dir (by simp [Parameters.texts, hin]))
    exact isOneLine_append.mpr ⟨by decide, hquoted⟩

end Parts

/-! ## Reading the lines off a script -/

/-- No text of a form or of settings that stands in a script holds a line feed. -/
structure HasPlainTexts (f : Form) (s : Settings) : Prop where
  /-- The name of the form. -/
  name : IsOneLine f.name
  /-- The names of the datasets. -/
  datasets : ∀ d ∈ f.datasets, IsOneLine d.name
  /-- The names of the questions. -/
  questions : ∀ q ∈ f.questions, IsOneLine q.name
  /-- The texts of the settings. -/
  parameters : ∀ t ∈ s.texts, IsOneLine t

/-- Every text that the settings bring into a script is one of the texts of the settings. -/
theorem texts_asParameters {s : Settings} {t : String} (h : t ∈ s.asParameters.texts) :
    t ∈ s.texts := by
  have hgiven : ∀ p ≠ Parameter.uniqueIds, t ∈ (s.given? p).toList → t ∈ s.texts :=
    fun p hp ht => Settings.given?_mem_texts hp (Option.mem_toList.mp ht)
  simp only [Parameters.texts, Settings.asParameters, List.mem_append, List.mem_cons,
    List.not_mem_nil, or_false] at h
  rcases h with ((((((rfl | rfl | rfl | rfl) | h) | h) | h) | h) | h) | h
  · exact Settings.text_mem_texts (by decide)
  · exact Settings.text_mem_texts (by decide)
  · exact Settings.text_mem_texts (by decide)
  · exact Settings.text_mem_texts (by decide)
  · exact List.mem_append_left _ h
  all_goals exact hgiven _ (by decide) h

section Parsed

variable {survey choices : Sheet} {name : String} {f : Form} {s : Settings}

/-- The datasets of an analysed form: the survey first, no name twice, each loaded by its name. -/
theorem datasets_of_parse (hf : Form.parse survey choices name = .ok f) :
    (∃ rest, f.datasets = Dataset.survey :: rest) ∧ (f.datasets.map (·.name)).Nodup ∧
      ∀ d ∈ f.datasets, d.reference = d.name := by
  obtain ⟨cs, qs, gs, -, -, -, rfl⟩ := Form.parse_eq_ok_iff.mp hf
  refine ⟨⟨_, rfl⟩, Dataset.nodup_build gs, fun d hd => ?_⟩
  rcases List.mem_cons.mp hd with rfl | hd
  · rfl
  · obtain ⟨g, -, rfl⟩ := List.mem_map.mp hd
    rfl

/-- With valid settings an analysed form has a script, since the survey is among its datasets. -/
theorem ofSettings_of_parse (hf : Form.parse survey choices name = .ok f) (hs : s.IsValid) :
    ofSettings f s = .ok (text f s.asParameters) := by
  obtain ⟨⟨rest, hrest⟩, -, -⟩ := datasets_of_parse hf
  have hsurvey : hasSurvey f = true := by
    rw [hasSurvey, hrest, List.any_cons]
    exact Bool.or_eq_true_iff.mpr (Or.inl (beq_self_eq_true _))
  rw [ofSettings, hsurvey, hs.parameters_eq]
  rfl

/-- A name in a bucket is the name of a question of that dataset and kind. -/
theorem exists_question_of_mem_names (hf : Form.parse survey choices name = .ok f) {d n : String}
    {kind : QuestionKind} (h : n ∈ f.catalog.names d kind) :
    ∃ q ∈ f.questions, q.dataset = d ∧ q.kind = some kind ∧ q.name = n := by
  rw [Form.names_of_parse hf] at h
  split at h
  · obtain ⟨q, hq, rfl⟩ := List.mem_map.mp h
    obtain ⟨hin, hfiled⟩ := List.mem_filter.mp hq
    have hplace : q.dataset = d ∧ q.kind = some kind := by simpa [Catalog.filed] using hfiled
    exact ⟨q, hin, hplace.1, hplace.2, rfl⟩
  · simp at h

/-- The lines that are read off a script are the lines that it was made of. -/
theorem lines_text (hf : Form.parse survey choices name = .ok f) (h : HasPlainTexts f s) :
    Text.lines (text f s.asParameters) = lines f s.asParameters := by
  have hp : ∀ t ∈ s.asParameters.texts, IsOneLine t := fun t ht =>
    h.parameters t (texts_asParameters ht)
  have hparts : ∀ l ∈ f.datasets.flatMap (part f s.asParameters), IsOneLine l := by
    intro l hl
    obtain ⟨d, hd, hl⟩ := List.mem_flatMap.mp hl
    have hname := h.datasets d hd
    have hreference : IsOneLine d.reference := by
      rw [(datasets_of_parse hf).2.2 d hd]
      exact hname
    have hnames : ∀ k, ∀ n ∈ f.catalog.names d.name k, IsOneLine n := by
      intro k n hn
      obtain ⟨q, hq, -, -, rfl⟩ := exists_question_of_mem_names hf hn
      exact h.questions q hq
    exact isOneLine_part hname hreference hnames hp l hl
  have hpreamble := isOneLine_preamble h.name hp
  refine lines_intercalate (by simp [lines]) ?_
  simp only [lines, List.forall_mem_append]
  exact ⟨⟨hpreamble, hparts⟩, by decide⟩

end Parsed

end Script

end SurveyChecks
