import SurveyChecks.Proofs.Form.ChoiceLists
import SurveyChecks.Proofs.Form.Outcome

/-!
# What labels change

Two survey sheets and two choices sheets that differ in labels only, except that the labels of rows
that open a repeat group are the same, are analysed alike: with the same error, or with forms that
differ only in labels and in the numbers of the choices. A label does decide whether a row of the
choices sheet has content, and so moves the numbers of the choices below it, but neither their
sequence nor which of them are kept. The labels of rows that open a repeat group do name datasets.
-/

namespace SurveyChecks

/-! ## Rows and sheets that differ in labels -/

/-- Two rows have the same cells in every column that is not hidden. -/
def Row.AgreeOutside (hidden : String → Bool) (row row' : Row) : Prop :=
  ∀ c, hidden c = false → row.get? c = row'.get? c

theorem Row.AgreeOutside.cell_eq {hidden : String → Bool} {row row' : Row}
    (h : row.AgreeOutside hidden row') {c : String} (hc : hidden c = false) :
    row.cell c = row'.cell c := by
  unfold Row.cell
  rw [h c hc]

theorem Row.AgreeOutside.text_eq {hidden : String → Bool} {row row' : Row}
    (h : row.AgreeOutside hidden row') {c : String} (hc : hidden c = false) :
    row.text c = row'.text c := by
  unfold Row.text
  rw [h.cell_eq hc]

theorem Row.agreeOutside_of_forall₂ {hidden : String → Bool} {row row' : Row}
    (h : List.Forall₂ (fun p p' => p.1 = p'.1 ∧ (hidden p.1 = false → p.2 = p'.2)) row row') :
    row.AgreeOutside hidden row' := by
  intro c hc
  induction h with
  | nil => rfl
  | @cons p p' row row' hp _ ih =>
    obtain ⟨hcolumn, hcell⟩ := hp
    rw [OrderedMap.get?_cons, OrderedMap.get?_cons, ← hcolumn, ih]
    by_cases hpc : p.1 = c
    · rw [hcell (hpc ▸ hc)]
    · simp [hpc]

/-- Two sheets have the same name and the same columns, and their rows are related one by one. -/
structure Sheet.Alike (related : Row → Row → Prop) (s s' : Sheet) : Prop where
  name : s.name = s'.name
  columns : s.columns = s'.columns
  rows : List.Forall₂ related s.rows s'.rows

theorem Sheet.Alike.missing_eq {related : Row → Row → Prop} {s s' : Sheet}
    (h : s.Alike related s') (required : List String) : s.missing required = s'.missing required := by
  unfold Sheet.missing
  rw [h.columns]

theorem filterMap_eq_of_forall₂ {α β : Type} {related : α → α → Prop} {f : α → Option β}
    {xs ys : List α} (h : List.Forall₂ related xs ys) (hf : ∀ x y, related x y → f x = f y) :
    xs.filterMap f = ys.filterMap f := by
  induction h with
  | nil => rfl
  | cons hxy _ ih => rw [List.filterMap_cons, List.filterMap_cons, hf _ _ hxy, ih]

theorem all_eq_of_forall₂ {α : Type} {related : α → α → Prop} {p : α → Bool} {xs ys : List α}
    (h : List.Forall₂ related xs ys) (hp : ∀ x y, related x y → p x = p y) :
    xs.all p = ys.all p := by
  induction h with
  | nil => rfl
  | cons hxy _ ih => rw [List.all_cons, List.all_cons, hp _ _ hxy, ih]

theorem map_filter_eq_of_forall₂ {α β : Type} {related : α → α → Prop} {p : α → Bool} {f : α → β}
    {xs ys : List α} (h : List.Forall₂ related xs ys) (hp : ∀ x y, related x y → p x = p y)
    (hf : ∀ x y, related x y → f x = f y) : (xs.filter p).map f = (ys.filter p).map f := by
  induction h with
  | nil => rfl
  | cons hxy _ ih =>
    rw [List.filter_cons, List.filter_cons, hp _ _ hxy]
    split
    · rw [List.map_cons, List.map_cons, hf _ _ hxy, ih]
    · exact ih

/-! ## Questions -/

namespace Question

/-- Whether a column of a survey sheet holds labels. -/
def isLabelColumn (c : String) : Bool :=
  c == "label" || isLanguageLabel c || c == workingLabelColumn

/-- Two rows of a survey sheet differ in labels only, and not at all when they open a repeat group.
-/
def SameButLabel (row row' : Row) : Prop :=
  row.AgreeOutside isLabelColumn row' ∧
    ((Text.words (rowType row)).head? = some beginRepeat → ∀ c, row.get? c = row'.get? c)

/-- A question without its labels. -/
def unlabelled (q : Question) : Question := { q with label := "", workingLabel := "" }

/-- A question without its labels, except when it opens a repeat group. -/
def masked (q : Question) : Question := if q.base = beginRepeat then q else q.unlabelled

variable {columns : List String} {row row' : Row} {rows rows' : List Row} {q : Question}
  {qs : List Question}

theorem unlabelled_masked (q : Question) : q.masked.unlabelled = q.unlabelled := by
  unfold masked
  split <;> rfl

theorem masked_of_base (h : q.base = beginRepeat) : q.masked = q := if_pos h

theorem masked_of_base_ne (h : q.base ≠ beginRepeat) : q.masked = q.unlabelled := if_neg h

theorem base_masked (q : Question) : q.masked.base = q.base := by
  unfold masked
  split <;> rfl

@[simp] theorem order_masked (q : Question) : q.masked.order = q.order := by
  unfold masked
  split <;> rfl

/-- What changes neither the base nor the labels of a question may be done before or after masking.
-/
theorem masked_comm {g : Question → Question} (hbase : (g q).base = q.base)
    (hlabels : (g q).unlabelled = g q.unlabelled) : (g q).masked = g q.masked := by
  unfold masked
  rw [hbase, hlabels]
  split <;> rfl

/-- A question depends on the texts of its row only. -/
theorem ofRow?_eq_of_text (h : row.text = row'.text) : ofRow? columns row = ofRow? columns row' := by
  have hlabel : ∀ column, rowLabel column row = rowLabel column row' := by
    intro column
    unfold rowLabel
    rw [h]
  unfold ofRow? rowType rowName
  simp only [h, hlabel]

theorem ofRow?_congr (h : ∀ c, row.get? c = row'.get? c) :
    ofRow? columns row = ofRow? columns row' := by
  refine ofRow?_eq_of_text (funext fun c => ?_)
  unfold Row.text Row.cell
  rw [h]

theorem masked_of_tokens (hopen : (Text.words (rowType row)).head? ≠ some beginRepeat)
    (hq : q.tokens = Text.words (rowType row)) : q.masked = q.unlabelled := by
  refine masked_of_base_ne fun hbase => ?_
  rw [base, hq] at hbase
  cases hhead : (Text.words (rowType row)).head? with
  | none =>
    rw [hhead] at hbase
    exact absurd hbase (by decide)
  | some w =>
    rw [hhead] at hbase
    exact hopen (hhead.trans (congrArg some hbase))

/-- Rows that differ in labels are read as questions that differ in labels. -/
theorem map_masked_ofRow? (h : SameButLabel row row') :
    (ofRow? columns row).map masked = (ofRow? columns row').map masked := by
  by_cases hopen : (Text.words (rowType row)).head? = some beginRepeat
  · rw [ofRow?_congr (h.2 hopen)]
  · have htype : rowType row' = rowType row := by
      unfold rowType
      rw [h.1.text_eq (by decide)]
    have hname : rowName row' = rowName row := by
      unfold rowName
      rw [h.1.text_eq (by decide)]
    have hcalculation : row'.text "calculation" = row.text "calculation" :=
      (h.1.text_eq (by decide)).symm
    unfold ofRow?
    dsimp only
    rw [htype, hname, hcalculation]
    split
    · rfl
    · refine congrArg some ((masked_of_tokens hopen ?_).trans
        (Eq.trans ?_ (masked_of_tokens hopen ?_).symm))
      · dsimp only
      · simp only [unlabelled]
      · dsimp only

theorem numbered_map {g : Question → Question}
    (h : ∀ q n, g { q with order := n } = { g q with order := n }) (qs : List Question) :
    numbered (qs.map g) = (numbered qs).map g := by
  unfold numbered
  rw [List.zipIdx_map, List.map_map, List.map_map]
  exact List.map_congr_left fun p _ => (h ..).symm

theorem classified_map {g : Question → Question}
    (h : ∀ q, g { q with kind := some q.classify } = { g q with kind := some (g q).classify })
    (qs : List Question) : classified (qs.map g) = (classified qs).map g := by
  unfold classified
  rw [List.map_map, List.map_map]
  exact List.map_congr_left fun q _ => (h q).symm

theorem classify_masked (q : Question) : q.masked.classify = q.classify := by
  unfold masked
  split
  · rfl
  · exact classify_congr rfl rfl rfl

theorem map_masked_ofRows (h : List.Forall₂ SameButLabel rows rows') :
    (ofRows columns rows).map masked = (ofRows columns rows').map masked := by
  have horder : ∀ q n, masked { q with order := n } = { masked q with order := n } := fun _ n =>
    masked_comm (g := fun q => { q with order := n }) rfl rfl
  have hkind : ∀ q : Question, masked { q with kind := some q.classify } =
      { masked q with kind := some (masked q).classify } := by
    intro q
    rw [classify_masked]
    exact masked_comm (g := fun p => { p with kind := some q.classify }) rfl rfl
  unfold ofRows
  rw [← classified_map hkind, ← numbered_map horder, ← classified_map hkind, ← numbered_map horder,
    List.map_filterMap, List.map_filterMap,
    filterMap_eq_of_forall₂ h fun row row' hrow => map_masked_ofRow? hrow]

end Question

/-! ## Repeat groups -/

namespace Repeat

theorem marker?_masked (q : Question) : marker? q.masked = marker? q := by
  unfold marker? markerKind?
  rw [Question.base_masked, Question.order_masked]

theorem markersOf_masked (qs : List Question) : markersOf (qs.map Question.masked) = markersOf qs := by
  unfold markersOf
  rw [List.filterMap_map]
  exact List.filterMap_congr fun q _ => marker?_masked q

theorem markers_masked (kind : MarkerKind) (qs : List Question) :
    markers kind (qs.map Question.masked) = markers kind qs := by
  rw [markers_eq_orders, markers_eq_orders, Question.inOrder_map _ Question.order_masked,
    markersOf_masked]

end Repeat

namespace RepeatGroup

open Question (DistinctOrders inOrder)
open Repeat (markersOf Matched)

variable {qs qs' : List Question} {ps : List (Int × Int)}

theorem questionAt?_masked (qs : List Question) (o : Int) :
    questionAt? (qs.map Question.masked) o = (questionAt? qs o).map Question.masked := by
  have horder : ((·.order == o) ∘ Question.masked : Question → Bool) = (·.order == o) := by
    funext q
    simp
  rw [questionAt?, questionAt?, ← List.map_reverse, List.find?_map, horder]

/-- The groups of matched markers are named by rows that open a group, whose labels are not masked.
-/
theorem numbered_masked (h : DistinctOrders qs) (hm : Matched (markersOf (inOrder qs)) ps [])
    (n : Nat) : numbered (qs.map Question.masked) n ps = numbered qs n ps := by
  unfold numbered
  refine List.map_congr_left fun x hx => ?_
  obtain ⟨p, i⟩ := x
  obtain ⟨q, hq, hbase, horder⟩ := hm.exists_opener (List.fst_mem_of_mem_zipIdx hx)
  have hquestion : questionAt? qs p.1 = some q :=
    (questionAt?_eq_some_iff h).mpr ⟨Question.mem_inOrder.mp hq, horder⟩
  show between (qs.map Question.masked) i p = between qs i p
  unfold between
  rw [questionAt?_masked, hquestion, Option.map_some, Question.masked_of_base hbase]

theorem resolve_eq_error_iff {e : FormError} :
    resolve qs = .error e ↔
      Repeat.pair (Repeat.markers .opening qs) (Repeat.markers .closing qs) = .error e := by
  unfold resolve
  cases Repeat.pair (Repeat.markers .opening qs) (Repeat.markers .closing qs) with
  | error e' => simp [bind, Except.bind]
  | ok ps => simp [bind, Except.bind, pure, Except.pure]

theorem resolve_masked (h : DistinctOrders qs) :
    resolve (qs.map Question.masked) = resolve qs := by
  have hd : DistinctOrders (qs.map Question.masked) := by
    have horder : ((·.order) ∘ Question.masked : Question → Int) = (·.order) := by
      funext q
      exact Question.order_masked q
    rw [DistinctOrders, List.map_map, horder]
    exact h
  cases hqs : resolve qs with
  | error e =>
    rw [resolve_eq_error_iff] at hqs ⊢
    rw [Repeat.markers_masked, Repeat.markers_masked, hqs]
  | ok gs =>
    obtain ⟨ps, hm, rfl⟩ := (resolve_eq_ok_iff h).mp hqs
    refine (resolve_eq_ok_iff hd).mpr ⟨ps, ?_, (numbered_masked h hm 1).symm⟩
    rwa [Question.inOrder_map _ Question.order_masked, Repeat.markersOf_masked]

/-- Questions that differ in labels only, other than those of rows that open a group, have the same
groups or fail to have any with the same error. -/
theorem resolve_congr (h : DistinctOrders qs) (h' : DistinctOrders qs')
    (heq : qs.map Question.masked = qs'.map Question.masked) : resolve qs = resolve qs' := by
  rw [← resolve_masked h, ← resolve_masked h', heq]

end RepeatGroup

/-! ## Choices -/

namespace Choice

open SurveyChecks.Text

/-- Two rows of a choices sheet differ in labels only. -/
def SameButLabel (row row' : Row) : Prop := row.AgreeOutside (· == "label") row'

/-- The lists and codes of the rows that are options, in order. -/
def keysOf (sheet : Sheet) : List (String × Int) :=
  (sheet.rows.filter fun row => isCode (codeText row)).map (rowKey (listColumn sheet.columns))

variable {column : String} {row row' : Row} {rows : List Row} {sheet sheet' : Sheet}

theorem map_key_firstOfEach (cs : List Choice) :
    (firstOfEach cs).map key = (cs.map key).eraseDups := by
  induction cs with
  | nil => rfl
  | cons c cs ih =>
    have hsame : (fun d => !sameCode c d) = ((fun k => !k == key c) ∘ key) := by
      funext d
      refine congrArg Bool.not (Bool.eq_iff_iff.mpr ?_)
      simp only [sameCode, key, Bool.and_eq_true, beq_iff_eq, Prod.mk.injEq]
      exact and_congr eq_comm eq_comm
    rw [firstOfEach, List.map_cons, List.map_cons, List.eraseDups_cons, hsame, ← List.filter_map, ih,
      filter_eraseDups]

/-- The lists of choices with their codes follow the lists and codes of the choices. -/
theorem mapValues_lists (cs : List Choice) :
    (lists cs).mapValues (List.map key) =
      OrderedMap.groupBy Prod.fst ((inOrder cs).map key).eraseDups := by
  have hgroups : (lists cs).mapValues (List.map key) =
      OrderedMap.groupBy Prod.fst ((firstOfEach (inOrder cs)).map key) :=
    OrderedMap.mapValues_groupBy Choice.list Prod.fst (fun _ => rfl) _
  rw [hgroups, map_key_firstOfEach]

/-- The choices of a sheet have the lists and codes of its rows. -/
theorem map_key_readings (h : Loads sheet) (hlegible : Legible sheet) :
    (inOrder ((readings sheet).filterMap Reading.choice?)).map key = keysOf sheet := by
  have hcontent : ((sheet.rows.filter Row.hasContent).filter fun row => isCode (codeText row)) =
      sheet.rows.filter fun row => isCode (codeText row) := by
    rw [List.filter_filter]
    refine List.filter_congr fun row _ => ?_
    by_cases hcode : isCode (codeText row)
    · simp [hcode, hasContent_of_isCode hcode]
    · simp [hcode]
  rw [readings_eq_ofRows, inOrder_ofRows, map_key_ofRows hlegible.of_mem_filter h.short, hcontent,
    keysOf]

theorem hasLongCode_iff : HasLongCode sheet ↔
    ((sheet.rows.filter fun row => isCode (codeText row)).map rowName).any
      (maxDigits < ·.length) := by
  unfold HasLongCode
  constructor
  · rintro ⟨row, hrow, -, hcode, hlong⟩
    exact List.any_eq_true.mpr ⟨_, List.mem_map_of_mem (List.mem_filter.mpr
      ⟨hrow, by simpa using isCode_rowName_iff.mp hcode⟩), by simpa using hlong⟩
  · intro h
    obtain ⟨n, hn, hlong⟩ := List.any_eq_true.mp h
    obtain ⟨row, hrow, rfl⟩ := List.mem_map.mp hn
    obtain ⟨hrow, hcode⟩ := List.mem_filter.mp hrow
    exact ⟨row, hrow, hasContent_of_isCode (by simpa using hcode),
      isCode_rowName_iff.mpr (by simpa using hcode), by simpa using hlong⟩

section Alike

variable (h : sheet.Alike SameButLabel sheet')
include h

theorem hasLongCode_iff_of_alike : HasLongCode sheet ↔ HasLongCode sheet' := by
  have htext : ∀ row row', SameButLabel row row' → row.text "name" = row'.text "name" :=
    fun row row' hrow => hrow.text_eq (by decide)
  have hnames := map_filter_eq_of_forall₂ (p := fun row => isCode (codeText row)) (f := rowName)
    h.rows (fun row row' hrow => by rw [codeText, codeText, htext row row' hrow])
    (fun row row' hrow => by rw [rowName, rowName, htext row row' hrow])
  rw [hasLongCode_iff, hasLongCode_iff, hnames]

theorem keysOf_eq_of_alike : keysOf sheet = keysOf sheet' := by
  have htext : ∀ row row', SameButLabel row row' → codeText row = codeText row' := by
    intro row row' hrow
    unfold codeText
    rw [hrow.text_eq (by decide)]
  have hcolumn : (listColumn sheet.columns == "label") = false := by
    unfold listColumn
    split <;> decide
  unfold keysOf
  rw [← h.columns]
  refine map_filter_eq_of_forall₂ h.rows (fun row row' hrow => by rw [htext row row' hrow])
    fun row row' hrow => ?_
  unfold rowKey codeValue
  rw [htext row row' hrow, hrow.text_eq hcolumn]

/-- Choices sheets that differ in labels fail to load with the same error, or have the same lists
with the same codes, if their rows are legible. -/
theorem load_of_alike (hlegible : Legible sheet) (hlegible' : Legible sheet') :
    (∃ e, load sheet = .error e ∧ load sheet' = .error e) ∨
      ∃ cs cs', load sheet = .ok cs ∧ load sheet' = .ok cs' ∧
        (lists cs).mapValues (List.map (·.code)) = (lists cs').mapValues (List.map (·.code)) := by
  have hmissing : sheet'.missing (requiredColumns sheet'.columns) =
      sheet.missing (requiredColumns sheet.columns) := by
    rw [← h.columns, ← h.missing_eq]
  by_cases hcolumns : sheet.missing (requiredColumns sheet.columns) = []
  · by_cases hlong : HasLongCode sheet
    · exact Or.inl ⟨_, load_of_hasLongCode hcolumns hlegible hlong, load_of_hasLongCode
        (hmissing.trans hcolumns) hlegible' ((hasLongCode_iff_of_alike h).mp hlong)⟩
    · have hloads : Loads sheet := ⟨hcolumns, hlong⟩
      have hloads' : Loads sheet' :=
        ⟨hmissing.trans hcolumns, mt (hasLongCode_iff_of_alike h).mpr hlong⟩
      refine Or.inr ⟨_, _, load_of_loads hloads hlegible, load_of_loads hloads' hlegible', ?_⟩
      have hcode : List.map (·.code) = List.map Prod.snd ∘ List.map key := by
        funext cs
        rw [Function.comp_apply, List.map_map]
        rfl
      rw [hcode, ← OrderedMap.mapValues_mapValues, ← OrderedMap.mapValues_mapValues,
        mapValues_lists, mapValues_lists, map_key_readings hloads hlegible,
        map_key_readings hloads' hlegible', keysOf_eq_of_alike h]
  · refine Or.inl ⟨_, load_of_missing hcolumns, ?_⟩
    rw [load_of_missing (hmissing ▸ hcolumns), hmissing, h.name]

end Alike

end Choice

/-! ## Forms -/

namespace Form

/-- Two forms differ at most in labels and in the numbers of their choices. -/
structure SameButLabels (f f' : Form) : Prop where
  /-- The name. -/
  name : f.name = f'.name
  /-- The questions, with their kinds and datasets. -/
  questions : f.questions.map Question.unlabelled = f'.questions.map Question.unlabelled
  /-- The repeat groups. -/
  groups : f.groups = f'.groups
  /-- The datasets. -/
  datasets : f.datasets = f'.datasets
  /-- The catalog. -/
  catalog : f.catalog = f'.catalog
  /-- The choice lists and the codes of each. -/
  lists : f.choiceLists.mapValues (List.map (·.code)) =
    f'.choiceLists.mapValues (List.map (·.code))

variable {survey survey' choices choices' : Sheet}

/-- Survey sheets that differ in labels, other than those of rows that open a group, fail to load
with the same error, or have questions that differ in these labels, if their rows are legible. -/
theorem loadQuestions_of_alike (h : survey.Alike Question.SameButLabel survey')
    (hlegible : Question.Legible survey) (hlegible' : Question.Legible survey') :
    (∃ e, loadQuestions survey = .error e ∧ loadQuestions survey' = .error e) ∨
      ∃ qs qs', loadQuestions survey = .ok qs ∧ loadQuestions survey' = .ok qs' ∧
        Question.DistinctOrders qs ∧ Question.DistinctOrders qs' ∧
        qs.map Question.masked = qs'.map Question.masked := by
  have hmissing := h.missing_eq ["type", "name"]
  by_cases hcolumns : survey.missing ["type", "name"] = []
  · refine Or.inr ⟨_, _, loadQuestions_of_loads ⟨hcolumns, hlegible⟩,
      loadQuestions_of_loads ⟨hmissing ▸ hcolumns, hlegible'⟩,
      (Question.ascending_ofRows ..).distinctOrders, (Question.ascending_ofRows ..).distinctOrders,
      ?_⟩
    rw [← h.columns]
    exact Question.map_masked_ofRows h.rows
  · refine Or.inl ⟨_, loadQuestions_of_error (Question.load_of_missing hcolumns), ?_⟩
    rw [loadQuestions_of_error (Question.load_of_missing (hmissing ▸ hcolumns)), hmissing, h.name]

/-- What a catalog does not file a question by does not matter to it. -/
theorem catalog_map {g : Question → Question} (horder : ∀ q, (g q).order = q.order)
    (hfile : ∀ m q, Catalog.file m (g q) = Catalog.file m q) (qs : List Question)
    (datasets : List Dataset) :
    Catalog.ofQuestions (qs.map g) datasets = Catalog.ofQuestions qs datasets := by
  have hfold : ∀ m, ((Question.inOrder qs).map g).foldl Catalog.file m =
      (Question.inOrder qs).foldl Catalog.file m := by
    intro m
    simp only [List.foldl_map, hfile]
  unfold Catalog.ofQuestions
  rw [Question.inOrder_map g horder]
  simp only [hfold]

theorem catalog_unlabelled (qs : List Question) (datasets : List Dataset) :
    Catalog.ofQuestions (qs.map Question.unlabelled) datasets = Catalog.ofQuestions qs datasets :=
  catalog_map (g := Question.unlabelled) (fun _ => rfl) (fun _ _ => rfl) qs datasets

theorem sameButLabels_analysed {cs cs' : List Choice} {qs qs' : List Question} (name : String)
    (gs : List RepeatGroup)
    (hlists : (Choice.lists cs).mapValues (List.map (·.code)) =
      (Choice.lists cs').mapValues (List.map (·.code)))
    (hmasked : qs.map Question.masked = qs'.map Question.masked) :
    SameButLabels (analysed name cs qs gs) (analysed name cs' qs' gs) := by
  have hunlabelled : qs.map Question.unlabelled = qs'.map Question.unlabelled := by
    have hcomp : Question.unlabelled ∘ Question.masked = Question.unlabelled :=
      funext Question.unlabelled_masked
    have := congrArg (List.map Question.unlabelled) hmasked
    rwa [List.map_map, List.map_map, hcomp] at this
  have hplace : ∀ qs : List Question, (qs.map (Dataset.place gs)).map Question.unlabelled =
      (qs.map Question.unlabelled).map (Dataset.place gs) := by
    intro qs
    rw [List.map_map, List.map_map]
    rfl
  have hquestions : (qs.map (Dataset.place gs)).map Question.unlabelled =
      (qs'.map (Dataset.place gs)).map Question.unlabelled := by
    rw [hplace, hplace, hunlabelled]
  refine ⟨rfl, hquestions, rfl, rfl, ?_, hlists⟩
  show Catalog.ofQuestions _ _ = Catalog.ofQuestions _ _
  rw [← catalog_unlabelled, hquestions, catalog_unlabelled]

/-- Two analyses of sheets that can be read and have the same groups, or none for the same reason. -/
theorem parse_of_resolve_eq {cs cs' : List Choice} {qs qs' : List Question}
    (hcs : Choice.load choices = .ok cs) (hcs' : Choice.load choices' = .ok cs')
    (hqs : loadQuestions survey = .ok qs) (hqs' : loadQuestions survey' = .ok qs')
    (hresolve : RepeatGroup.resolve qs = RepeatGroup.resolve qs') (name : String) :
    (∃ e, parse survey choices name = .error e ∧ parse survey' choices' name = .error e) ∨
      ∃ gs, parse survey choices name = .ok (analysed name cs qs gs) ∧
        parse survey' choices' name = .ok (analysed name cs' qs' gs) := by
  cases hgroups : RepeatGroup.resolve qs with
  | error e =>
    exact Or.inl ⟨e, parse_of_groups_error hcs hqs hgroups,
      parse_of_groups_error hcs' hqs' (hresolve ▸ hgroups)⟩
  | ok gs =>
    exact Or.inr ⟨gs, parse_eq_ok_iff.mpr ⟨cs, qs, gs, hcs, hqs, hgroups, rfl⟩,
      parse_eq_ok_iff.mpr ⟨cs', qs', gs, hcs', hqs', hresolve ▸ hgroups, rfl⟩⟩

/-- Sheets with legible rows that differ in labels, other than those of rows that open a group, fail
to be analysed with the same error, or have forms that differ in labels and in the numbers of
choices. -/
theorem parse_of_alike (hsurvey : survey.Alike Question.SameButLabel survey')
    (hchoices : choices.Alike Choice.SameButLabel choices')
    (hrows : Question.Legible survey) (hrows' : Question.Legible survey')
    (hoptions : Choice.Legible choices) (hoptions' : Choice.Legible choices') (name : String) :
    (∃ e, parse survey choices name = .error e ∧ parse survey' choices' name = .error e) ∨
      ∃ f f', parse survey choices name = .ok f ∧ parse survey' choices' name = .ok f' ∧
        SameButLabels f f' := by
  rcases Choice.load_of_alike hchoices hoptions hoptions' with
    ⟨e, he, he'⟩ | ⟨cs, cs', hcs, hcs', hlists⟩
  · exact Or.inl ⟨e, parse_of_choices_error he, parse_of_choices_error he'⟩
  rcases loadQuestions_of_alike hsurvey hrows hrows' with
    ⟨e, he, he'⟩ | ⟨qs, qs', hqs, hqs', hd, hd', hmasked⟩
  · exact Or.inl ⟨e, parse_of_questions_error hcs he, parse_of_questions_error hcs' he'⟩
  rcases parse_of_resolve_eq hcs hcs' hqs hqs' (RepeatGroup.resolve_congr hd hd' hmasked) name with
    herror | ⟨gs, hf, hf'⟩
  · exact Or.inl herror
  · exact Or.inr ⟨_, _, hf, hf', sameButLabels_analysed name gs hlists hmasked⟩

end Form

end SurveyChecks
