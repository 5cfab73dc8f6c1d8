import SurveyChecks.Proofs.Form.Composition

/-!
# Inserting a row

A row that neither opens nor closes a repeat group can be put anywhere into a form that can be
analysed. It takes its place among the questions and in one bucket of the catalog; apart from the
orders behind it, which are raised by one, the analysis stays as it was.
-/

namespace SurveyChecks

/-! ## Making room for an order -/

namespace Question

/-- Raises the orders from `k` on by one. -/
def makeRoom (k o : Int) : Int := if k ≤ o then o + 1 else o

theorem makeRoom_of_lt {k o : Int} (h : o < k) : makeRoom k o = o := by
  unfold makeRoom
  rw [if_neg (not_le.mpr h)]

theorem makeRoom_of_le {k o : Int} (h : k ≤ o) : makeRoom k o = o + 1 := by
  unfold makeRoom
  rw [if_pos h]

theorem makeRoom_le_makeRoom_iff (k a b : Int) : makeRoom k a ≤ makeRoom k b ↔ a ≤ b := by
  unfold makeRoom
  split <;> split <;> omega

end Question

namespace RepeatGroup

open Question (makeRoom)

/-- At the place `k` the group has been opened and is not yet closed. -/
def OpenAt (k : Int) (g : RepeatGroup) : Prop := g.first < k ∧ k ≤ g.last

/-- With room made at a place, the groups around that place are those that were open there. -/
theorem contains_makeRoom_iff {k : Int} {g : RepeatGroup} {i : Int} :
    (g.relabel i (makeRoom k)).contains k = true ↔ OpenAt k g := by
  rw [contains_iff]
  simp only [relabel, makeRoom, OpenAt]
  split <;> split <;> omega

theorem OpenAt.contains {k : Int} {g : RepeatGroup} (h : OpenAt k g) : g.contains k := by
  rw [contains_iff]
  unfold OpenAt at h
  omega

end RepeatGroup

namespace Form

open Question (ofRows raise makeRoom)
open RepeatGroup (numbered innermost? OpenAt Inside)
open Repeat (Matched markersOf)
open Dataset (place)
open Catalog (filed)

/-- The names of questions that a catalog lists under a dataset and a kind. -/
def listed (d : String) (kind : QuestionKind) (qs : List Question) : List String :=
  if kind.isScored then (qs.filter (filed (d, kind))).map (·.name) else []

/-- The question `new` belongs to the innermost of the groups that are open at its place, and to the
dataset of that group, or to none and to the survey when no group is open there. -/
def JoinsInnermost (gs : List RepeatGroup) (new : Question) : Prop :=
  (new.group = none ∧ new.dataset = surveyDataset ∧ ∀ g ∈ gs, ¬ OpenAt new.order g) ∨
  ∃ g ∈ gs, OpenAt new.order g ∧ new.group = some g.index ∧ new.dataset = g.dataset ∧
    ∀ h ∈ gs, OpenAt new.order h → h ≠ g → Inside g h

/-- The form `f` is `f₁` with the question `new`, read as `read`, behind its first `n` questions.
Groups keep their index and names, and a bound is raised by one when it was at the place or behind
it; the questions before the place stay and those behind it only change their order. -/
structure IsInsertion (n : Nat) (read new : Question) (f₁ f : Form) : Prop where
  reading : new = { readAt (n + 1) read with group := new.group, dataset := new.dataset }
  groups : f.groups = f₁.groups.map (RepeatGroup.relabel 0 (makeRoom new.order))
  questions : f.questions =
    f₁.questions.take n ++ new :: (f₁.questions.drop n).map (Question.relabel (raise 1))
  membership : JoinsInnermost f₁.groups new
  datasets : f.datasets = f₁.datasets
  choices : f.choices = f₁.choices ∧ f.choiceLists = f₁.choiceLists
  catalogDatasets : f.catalog.datasets = f₁.catalog.datasets
  names : ∀ d kind,
    f₁.catalog.names d kind =
      listed d kind (f₁.questions.take n) ++ listed d kind (f₁.questions.drop n) ∧
    f.catalog.names d kind =
      listed d kind (f₁.questions.take n) ++
        (if new.dataset = d ∧ new.kind = some kind ∧ kind ∈ QuestionKind.scored then [new.name]
          else []) ++
        listed d kind (f₁.questions.drop n)

/-! ## The questions of the rows -/

section Rows

variable {columns : List String} {before after : List Row} {row : Row} {read q : Question}

/-- A question before the place keeps its order. -/
theorem relabel_makeRoom_of_lt {k : Int} (h : q.order < k) : q.relabel (makeRoom k) = q := by
  unfold Question.relabel
  rw [Question.makeRoom_of_lt h]

/-- A question at the place or behind it is moved by one. -/
theorem relabel_makeRoom_of_le {k : Int} (h : k ≤ q.order) :
    q.relabel (makeRoom k) = q.relabel (raise 1) := by
  unfold Question.relabel
  rw [Question.makeRoom_of_le h]
  rfl

theorem length_ofRows (columns : List String) (rows : List Row) :
    (ofRows columns rows).length = (rows.filterMap (Question.ofRow? columns)).length := by
  simp [ofRows, Question.classified, Question.numbered]

theorem order_lt_of_mem_before (hq : q ∈ ofRows columns before) :
    q.order < (ofRows columns before).length + 1 := by
  have := (Question.order_of_mem_ofRows hq).2
  omega

/-- The questions of `after` when they stand behind those of `before`. -/
def behind (columns : List String) (before after : List Row) : List Question :=
  (ofRows columns after).map (Question.relabel (raise (ofRows columns before).length))

theorem le_order_of_mem_behind (hq : q ∈ behind columns before after) :
    (ofRows columns before).length + 1 ≤ q.order := by
  obtain ⟨q', hq', rfl⟩ := List.mem_map.mp hq
  have := (Question.order_of_mem_ofRows hq').1
  simp only [Question.relabel, raise]
  omega

/-- The questions of rows with one more in between: it takes the next place, and those behind it are
moved by one. -/
theorem ofRows_insert (hread : Question.ofRow? columns row = some read) :
    ofRows columns (before ++ row :: after) =
      ofRows columns before ++ readAt ((ofRows columns before).length + 1) read ::
        (behind columns before after).map (Question.relabel (raise 1)) := by
  have hrow : ofRows columns (row :: after) =
      readAt 1 read :: (ofRows columns after).map (Question.relabel (raise 1)) := by
    have := Question.ofRows_append columns [row] after
    rw [ofRows_singleton hread] at this
    exact this
  have horder : raise (ofRows columns before).length 1 = (ofRows columns before).length + 1 :=
    Int.add_comm ..
  have hbehind : ((ofRows columns after).map (Question.relabel (raise 1))).map
      (Question.relabel (raise (ofRows columns before).length)) =
        (behind columns before after).map (Question.relabel (raise 1)) := by
    unfold behind
    rw [List.map_map, List.map_map]
    refine List.map_congr_left fun q _ => ?_
    simp only [Function.comp_apply, Question.relabel, raise, Int.add_right_comm]
  rw [Question.ofRows_append, hrow, List.map_cons, relabel_readAt, horder, hbehind]

/-- Making room for the new row gives the other questions. -/
theorem map_makeRoom_ofRows (columns : List String) (before after : List Row) :
    (ofRows columns (before ++ after)).map
        (Question.relabel (makeRoom ((ofRows columns before).length + 1))) =
      ofRows columns before ++ (behind columns before after).map (Question.relabel (raise 1)) := by
  rw [Question.ofRows_append, List.map_append]
  congr 1
  · exact (List.map_congr_left fun q hq => relabel_makeRoom_of_lt (order_lt_of_mem_before hq)).trans
      (List.map_id _)
  · exact List.map_congr_left fun q hq => relabel_makeRoom_of_le (le_order_of_mem_behind hq)

end Rows

/-! ## The groups and their members -/

section Groups

variable {columns : List String} {before after : List Row} {row : Row} {read : Question}
  {ps : List (Int × Int)}

theorem matched_insert (hread : Question.ofRow? columns row = some read)
    (hother : Repeat.markerKind? read = none)
    (hm : Matched (markersOf (ofRows columns (before ++ after))) ps []) :
    Matched (markersOf (ofRows columns (before ++ row :: after)))
      (ps.map fun p => (makeRoom ((ofRows columns before).length + 1) p.1,
        makeRoom ((ofRows columns before).length + 1) p.2)) [] := by
  have hkind : Repeat.markerKind? (readAt ((ofRows columns before).length + 1) read) = none :=
    (markerKind?_readAt ..).trans hother
  have hmarkers : markersOf (ofRows columns (before ++ row :: after)) =
      markersOf ((ofRows columns (before ++ after)).map
        (Question.relabel (makeRoom ((ofRows columns before).length + 1)))) := by
    rw [ofRows_insert hread, map_makeRoom_ofRows, Repeat.markersOf_append,
      Repeat.markersOf_cons_of_other hkind, Repeat.markersOf_append]
  rw [hmarkers, Repeat.markersOf_relabel]
  exact hm.map _

theorem numbered_insert (hread : Question.ofRow? columns row = some read)
    (hm : Matched (markersOf (ofRows columns (before ++ after))) ps []) :
    numbered (ofRows columns (before ++ row :: after)) 1
        (ps.map fun p => (makeRoom ((ofRows columns before).length + 1) p.1,
          makeRoom ((ofRows columns before).length + 1) p.2)) =
      (numbered (ofRows columns (before ++ after)) 1 ps).map
        (RepeatGroup.relabel 0 (makeRoom ((ofRows columns before).length + 1))) := by
  refine RepeatGroup.numbered_relabel (Question.ascending_ofRows ..).distinctOrders
    (Question.ascending_ofRows ..).distinctOrders ?_ (fun p hp => (hm.exists_question hp).1) 1 0
  intro q hq
  have hmem : q.relabel (makeRoom ((ofRows columns before).length + 1)) ∈
      ofRows columns before ++ (behind columns before after).map (Question.relabel (raise 1)) := by
    rw [← map_makeRoom_ofRows]
    exact List.mem_map_of_mem hq
  rw [ofRows_insert hread]
  exact List.mem_append.mpr ((List.mem_append.mp hmem).imp_right (List.mem_cons_of_mem _))

theorem pairwise_index_makeRoom {gs : List RepeatGroup} (hindex : gs.Pairwise (·.index < ·.index))
    (k : Int) :
    (gs.map (RepeatGroup.relabel 0 (makeRoom k))).Pairwise (·.index < ·.index) :=
  List.Pairwise.map _ (fun _ _ hab => by simpa [RepeatGroup.relabel] using hab) hindex

/-- With room made at a place, every question stays in its group and dataset. -/
theorem place_makeRoom {gs : List RepeatGroup} (hindex : gs.Pairwise (·.index < ·.index)) (k : Int)
    (q : Question) :
    place (gs.map (RepeatGroup.relabel 0 (makeRoom k))) (q.relabel (makeRoom k)) =
      (place gs q).relabel (makeRoom k) := by
  have := Dataset.place_relabel (i := 0) (f := makeRoom k) (pairwise_index_makeRoom hindex k) hindex
    (fun g hg => List.mem_map_of_mem hg) (q := q)
    (RepeatGroup.innermost?_relabel (Question.makeRoom_le_makeRoom_iff k) gs q.order)
  rw [this]
  simp [Question.moved, Question.relabel]

/-- The new question joins the innermost of the groups that are open at its place. -/
theorem joinsInnermost_place {qs : List Question}
    (hm : Matched (markersOf (ofRows columns (before ++ after))) ps []) (q : Question) :
    JoinsInnermost (numbered qs 1 ps)
      (place ((numbered qs 1 ps).map (RepeatGroup.relabel 0 (makeRoom q.order))) q) := by
  have hms := Repeat.ascending_markersOf (Question.ascending_ofRows columns (before ++ after))
  have hindex₁ : (numbered qs 1 ps).Pairwise (·.index < ·.index) :=
    RepeatGroup.pairwise_index_numbered
  have hindex := pairwise_index_makeRoom hindex₁ q.order
  unfold JoinsInnermost
  rw [Dataset.place_group, Dataset.place_dataset, Dataset.place_order]
  cases hi : innermost? ((numbered qs 1 ps).map (RepeatGroup.relabel 0 (makeRoom q.order)))
      q.order with
  | none =>
    refine Or.inl ⟨rfl, rfl, fun g hg hopen => ?_⟩
    have hnot := RepeatGroup.innermost?_eq_none_iff.mp hi _ (List.mem_map_of_mem hg)
    rw [RepeatGroup.contains_makeRoom_iff.mpr hopen] at hnot
    simp at hnot
  | some i =>
    obtain ⟨⟨g', hg', hc, rfl⟩, hmax⟩ := RepeatGroup.innermost?_eq_some_iff.mp hi
    obtain ⟨g, hg, rfl⟩ := List.mem_map.mp hg'
    have hopen := RepeatGroup.contains_makeRoom_iff.mp hc
    refine Or.inr ⟨g, hg, hopen, by simp [RepeatGroup.relabel], ?_, fun h hh hhopen hne => ?_⟩
    · exact Dataset.nameAt_of_mem hindex hg'
    · rcases RepeatGroup.eq_or_before hm hms hg hh with heq | hb | hb
      · exact absurd heq.symm hne
      · have := hmax _ (List.mem_map_of_mem hh) (RepeatGroup.contains_makeRoom_iff.mpr hhopen)
        simp only [RepeatGroup.relabel] at this
        exact absurd hb.1 (by omega)
      · exact hb.inside hhopen.contains hopen.contains

/-- The questions of the form with the new row, each in its group and dataset. -/
theorem place_insert {gs : List RepeatGroup} (hread : Question.ofRow? columns row = some read)
    (hindex : gs.Pairwise (·.index < ·.index)) {k : Int}
    (hk : k = (ofRows columns before).length + 1) :
    (ofRows columns (before ++ row :: after)).map
        (place (gs.map (RepeatGroup.relabel 0 (makeRoom k)))) =
      (ofRows columns before).map (place gs) ++
        place (gs.map (RepeatGroup.relabel 0 (makeRoom k))) (readAt k read) ::
          ((behind columns before after).map (place gs)).map (Question.relabel (raise 1)) := by
  subst hk
  have hbefore : (ofRows columns before).map
      (place (gs.map (RepeatGroup.relabel 0 (makeRoom ((ofRows columns before).length + 1))))) =
        (ofRows columns before).map (place gs) := by
    refine List.map_congr_left fun q hq => ?_
    have hlt := order_lt_of_mem_before hq
    have := place_makeRoom hindex ((ofRows columns before).length + 1) q
    rwa [relabel_makeRoom_of_lt hlt, relabel_makeRoom_of_lt (q := place gs q) hlt] at this
  have hbehind : ((behind columns before after).map (Question.relabel (raise 1))).map
      (place (gs.map (RepeatGroup.relabel 0 (makeRoom ((ofRows columns before).length + 1))))) =
        ((behind columns before after).map (place gs)).map (Question.relabel (raise 1)) := by
    rw [List.map_map, List.map_map]
    refine List.map_congr_left fun q hq => ?_
    have hle := le_order_of_mem_behind hq
    have := place_makeRoom hindex ((ofRows columns before).length + 1) q
    rwa [relabel_makeRoom_of_le hle, relabel_makeRoom_of_le (q := place gs q) hle] at this
  rw [ofRows_insert hread, List.map_append, List.map_cons, hbefore, hbehind]

end Groups

/-! ## The catalog -/

section Names

variable {d : String} {kind : QuestionKind} {qs qs' : List Question}

@[simp] theorem listed_append :
    listed d kind (qs ++ qs') = listed d kind qs ++ listed d kind qs' := by
  unfold listed
  split <;> simp

/-- A list of names does not depend on the orders of the questions. -/
@[simp] theorem listed_relabel (f : Int → Int) :
    listed d kind (qs.map (Question.relabel f)) = listed d kind qs := by
  unfold listed
  rw [List.filter_map, List.map_map]
  rfl

theorem listed_cons (q : Question) :
    listed d kind (q :: qs) =
      (if q.dataset = d ∧ q.kind = some kind ∧ kind ∈ QuestionKind.scored then [q.name] else []) ++
        listed d kind qs := by
  unfold listed filed QuestionKind.isScored
  by_cases hs : kind ∈ QuestionKind.scored <;> by_cases hd : q.dataset = d <;>
    by_cases hk : q.kind = some kind <;> simp [hs, hd, hk]

end Names

/-! ## The form with the new row -/

theorem build_makeRoom (gs : List RepeatGroup) (k : Int) :
    Dataset.build (gs.map (RepeatGroup.relabel 0 (makeRoom k))) = Dataset.build gs := by
  have hdataset : Dataset.relabel 0 = id := by
    funext d
    simp [Dataset.relabel]
  rw [Dataset.build_relabel, hdataset, List.map_id]

/-- The catalog of an analysed form has the datasets of the form. -/
theorem datasets_catalog_analysed (name : String) (cs : List Choice) (qs : List Question)
    (gs : List RepeatGroup) :
    (analysed name cs qs gs).catalog.datasets = (Dataset.build gs).map (·.name) := by
  refine Catalog.datasets_ofQuestions fun q hq _ => ?_
  obtain ⟨q, -, rfl⟩ := List.mem_map.mp hq
  exact Dataset.place_dataset_mem_build gs q

/-- The analysis of the rows with a new one in between. -/
theorem isInsertion_analysed {columns : List String} {before after : List Row} {row : Row}
    {read : Question} {ps : List (Int × Int)} (hread : Question.ofRow? columns row = some read)
    (hm : Matched (markersOf (ofRows columns (before ++ after))) ps []) {gs gs' : List RepeatGroup}
    (hgs : gs = numbered (ofRows columns (before ++ after)) 1 ps) {n : Nat}
    (hn : n = (ofRows columns before).length)
    (hgs' : gs' = gs.map (RepeatGroup.relabel 0 (makeRoom (n + 1)))) (cs : List Choice)
    (name₁ name : String) :
    IsInsertion n read (place gs' (readAt (n + 1) read))
      (analysed name₁ cs (ofRows columns (before ++ after)) gs)
      (analysed name cs (ofRows columns (before ++ row :: after)) gs') := by
  have hindex : gs.Pairwise (·.index < ·.index) := hgs ▸ RepeatGroup.pairwise_index_numbered
  have hold : (ofRows columns (before ++ after)).map (place gs) =
      (ofRows columns before).map (place gs) ++ (behind columns before after).map (place gs) := by
    rw [Question.ofRows_append, List.map_append]
    rfl
  have hlength : ((ofRows columns before).map (place gs)).length = n := by
    rw [hn, List.length_map]
  have hnew : (ofRows columns (before ++ row :: after)).map (place gs') =
      ((ofRows columns (before ++ after)).map (place gs)).take n ++
        place gs' (readAt (n + 1) read) ::
          (((ofRows columns (before ++ after)).map (place gs)).drop n).map
            (Question.relabel (raise 1)) := by
    rw [hold, List.take_left' hlength, List.drop_left' hlength, hgs']
    exact place_insert hread hindex (by rw [hn])
  have hbuild : Dataset.build gs' = Dataset.build gs := hgs' ▸ build_makeRoom gs _
  have hnames : ∀ name rows gs d kind, (analysed name cs (ofRows columns rows) gs).catalog.names d
      kind = listed d kind ((ofRows columns rows).map (place gs)) :=
    fun _ rows _ d kind => names_analysed (Question.ascending_ofRows columns rows) d kind
  exact
    { reading := rfl
      groups := hgs'
      questions := hnew
      membership := by
        rw [hgs', hgs]
        exact joinsInnermost_place hm (readAt (n + 1) read)
      datasets := hbuild
      choices := ⟨rfl, rfl⟩
      catalogDatasets := by rw [datasets_catalog_analysed, datasets_catalog_analysed, hbuild]
      names := fun d kind => by
        constructor
        · rw [hnames, ← listed_append]
          exact congrArg _ (List.take_append_drop n _).symm
        · rw [hnames, hnew, listed_append, listed_cons, listed_relabel, List.append_assoc]
          rfl }

/-- A row that neither opens nor closes a group and has a name is read as a question that is no
marker. -/
theorem exists_ofRow?_of_other (columns : List String) {row : Row}
    (hname : Question.rowName row ≠ "")
    (hopen : (Text.words (Question.rowType row)).head? ≠ some Question.beginRepeat)
    (hclose : (Text.words (Question.rowType row)).head? ≠ some Question.endRepeat) :
    ∃ q, Question.ofRow? columns row = some q ∧ q.name = Question.rowName row ∧
      Repeat.markerKind? q = none := by
  unfold Question.ofRow?
  simp only [hname, false_and, if_false]
  refine ⟨_, rfl, ?_⟩
  simp only [true_and]
  unfold Repeat.markerKind? Question.base
  cases ht : (Text.words (Question.rowType row)).head? with
  | none => rfl
  | some word =>
    rw [ht] at hopen hclose
    have hopen' : word ≠ Question.beginRepeat := fun heq => hopen (congrArg some heq)
    have hclose' : word ≠ Question.endRepeat := fun heq => hclose (congrArg some heq)
    simp [hopen', hclose']

/-- Inserting a legible row that neither opens nor closes a group moves nothing else. The form can
still be analysed; the row becomes a question at its place among the kept rows, in the innermost
group that is open there; the groups, the datasets and all other questions stay, apart from the
orders from that place on; and the catalog gains the name in the bucket of its dataset and kind, if
that is scored, at its place in the sequence of the questions. -/
theorem parse_insert {survey choices : Sheet} {name₁ : String} {f₁ : Form}
    (h₁ : parse survey choices name₁ = .ok f₁) {before after : List Row}
    (hrows : survey.rows = before ++ after) {row : Row} (hname : Question.rowName row ≠ "")
    (hopen : (Text.words (Question.rowType row)).head? ≠ some Question.beginRepeat)
    (hclose : (Text.words (Question.rowType row)).head? ≠ some Question.endRepeat)
    (hlegible : Question.isLegible survey.columns row) (name : String) :
    ∃ read new f,
      Question.ofRow? survey.columns row = some read ∧ read.name = Question.rowName row ∧
      parse { survey with rows := before ++ row :: after } choices name = .ok f ∧
      IsInsertion (before.filterMap (Question.ofRow? survey.columns)).length read new f₁ f := by
  obtain ⟨read, hread, hreadName, hother⟩ :=
    exists_ofRow?_of_other survey.columns hname hopen hclose
  obtain ⟨⟨hcolumns, hall⟩, cs, ps, hcs, hm, rfl⟩ := parse_eq_ok_iff_matched.mp h₁
  unfold Question.Legible at hall
  rw [hrows] at hm hall ⊢
  have hloads : Question.Loads { survey with rows := before ++ row :: after } := by
    obtain ⟨hbefore, hafter⟩ := List.forall_mem_append.mp hall
    exact ⟨hcolumns, List.forall_mem_append.mpr
      ⟨hbefore, List.forall_mem_cons.mpr ⟨hlegible, hafter⟩⟩⟩
  have hparse : parse { survey with rows := before ++ row :: after } choices name = .ok _ :=
    parse_eq_ok_iff_matched.mpr ⟨hloads, cs, _, hcs, matched_insert hread hother hm, rfl⟩
  have hgroups := numbered_insert hread hm
  have hinsertion := isInsertion_analysed hread hm rfl rfl rfl cs name₁ name
  rw [← hgroups, length_ofRows] at hinsertion
  rw [length_ofRows] at hparse
  exact ⟨read, _, _, hread, hreadName, hparse, hinsertion⟩

/-- A row that asks for one option of a list. -/
def optionRow : Row := surveyRow "select_one yn" "paid" ""

/-- The nested survey with one more row in its innermost group. -/
def longerSurvey : Sheet :=
  { nestedSurvey with rows := nestedSurvey.rows.take 7 ++ optionRow :: nestedSurvey.rows.drop 7 }

theorem parse_insert_nestedSurvey :
    ∃ (new : Question) (f : Form), parse longerSurvey noChoices "longer" = .ok f ∧
      new.order = 8 ∧ new.group = some 3 ∧ new.dataset = "jobs" ∧
      f.groups.map (fun g => (g.index, g.first, g.last)) = [(1, 1, 3), (2, 4, 11), (3, 7, 10)] ∧
      f.catalog.names "jobs" .numeric = ["pay", "hours"] ∧
      f.catalog.names "jobs" .selectOne = ["paid"] := by
  have hrows : nestedSurvey.rows = nestedSurvey.rows.take 7 ++ nestedSurvey.rows.drop 7 := rfl
  have hoption : Question.rowName optionRow ≠ "" := by decide +kernel
  obtain ⟨read, new, f, hread, -, hf, hnew⟩ :=
    parse_insert (parse_nestedSurvey "nested") hrows hoption (by decide +kernel)
      (by decide +kernel) (by decide +kernel) "longer"
  have hcount : ((nestedSurvey.rows.take 7).filterMap
      (Question.ofRow? nestedSurvey.columns)).length = 7 := by
    decide +kernel
  have hkind : (Question.ofRow? nestedSurvey.columns optionRow).map
      (fun q => (q.name, q.classify)) = some ("paid", .selectOne) := by
    decide +kernel
  rw [hread, Option.map_some, Option.some.injEq, Prod.mk.injEq] at hkind
  rw [hcount] at hnew
  have horder : new.order = 8 := congrArg Question.order hnew.reading
  have hname : new.name = "paid" := (congrArg Question.name hnew.reading).trans hkind.1
  have hselect : new.kind = some .selectOne :=
    (congrArg Question.kind hnew.reading).trans (congrArg some hkind.2)
  have hgroups : (nestedForm "nested").groups =
      [⟨1, 1, 3, "jobs", "r1"⟩, ⟨2, 4, 10, "survey", "r2"⟩, ⟨3, 7, 9, "jobs", "r3"⟩] := by
    decide +kernel
  have hjoined : new.group = some 3 ∧ new.dataset = "jobs" := by
    have hmember := hnew.membership
    unfold JoinsInnermost at hmember
    rw [hgroups, horder] at hmember
    simpa [OpenAt, Inside] using hmember
  refine ⟨new, f, hf, horder, hjoined.1, hjoined.2, ?_, ?_, ?_⟩
  · rw [hnew.groups, hgroups, horder]
    decide
  · rw [(hnew.names "jobs" .numeric).2, hjoined.2, hselect, hname]
    decide +kernel
  · rw [(hnew.names "jobs" .selectOne).2, hjoined.2, hselect, hname]
    decide +kernel

/-- A row with a name that neither opens nor closes a group cannot be inserted when a cell of it is
an integer with too many digits. -/
theorem not_parse_insert_of_numeral :
    (∃ f, parse (ageSurvey [] []) noChoices "age" = .ok f) ∧
    Question.rowName (overlongRow "integer" "pay") = "pay" ∧
    (Text.words (Question.rowType (overlongRow "integer" "pay"))).head? = some "integer" ∧
    parse (ageSurvey [] [overlongRow "integer" "pay"]) noChoices "longer" =
      .error .numeralTooLong := by
  refine ⟨parse_ageSurvey, by decide +kernel, by decide +kernel, parse_of_not_legible rfl ?_ _⟩
  unfold Question.Legible
  decide +kernel

end Form

end SurveyChecks
