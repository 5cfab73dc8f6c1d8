import SurveyChecks.Proofs.Form.Outcome
import SurveyChecks.Proofs.Form.Partition
import SurveyChecks.Proofs.Repeat.Relabel

/-!
# Composing forms

Forms that can be analysed can be put one behind the other, and inside a repeat group. The parts
keep their kinds and datasets; only orders and indices are raised.
-/

namespace SurveyChecks

/-! ## Rows one behind the other -/

namespace Question

/-- Raises an order by a number of questions. -/
abbrev raise (n : Nat) (o : Int) : Int := o + n

theorem raise_le_raise_iff (n : Nat) (a b : Int) : raise n a ≤ raise n b ↔ a ≤ b :=
  Int.add_le_add_iff_right _

theorem numbered_append (qs qs' : List Question) :
    numbered (qs ++ qs') = numbered qs ++ (numbered qs').map (relabel (raise qs.length)) := by
  unfold numbered
  rw [List.zipIdx_append, List.map_append, List.map_map]
  congr 1
  rw [Nat.add_comm, ← List.map_snd_add_zipIdx_eq_zipIdx, List.map_map]
  refine List.map_congr_left fun p _ => ?_
  simp [relabel, raise]

theorem classified_relabel (f : Int → Int) (qs : List Question) :
    classified (qs.map (relabel f)) = (classified qs).map (relabel f) := by
  unfold classified
  rw [List.map_map, List.map_map]
  refine List.map_congr_left fun q _ => ?_
  have hkind : (q.relabel f).classify = q.classify := classify_congr rfl rfl rfl
  show { q.relabel f with kind := some (q.relabel f).classify } = _
  rw [hkind]
  rfl

/-- The questions of rows that go on: those of the first part, and of the rest raised by their
number. -/
theorem ofRows_append (columns : List String) (rows rows' : List Row) :
    ofRows columns (rows ++ rows') =
      ofRows columns rows ++
        (ofRows columns rows').map (relabel (raise (ofRows columns rows).length)) := by
  unfold ofRows
  rw [List.filterMap_append, numbered_append, ← classified_relabel]
  simp [classified, numbered]

theorem order_of_mem_ofRows {columns : List String} {rows : List Row} {q : Question}
    (hq : q ∈ ofRows columns rows) : 1 ≤ q.order ∧ q.order ≤ (ofRows columns rows).length := by
  have hmem := List.mem_map_of_mem (f := fun q : Question => q.order) hq
  rw [map_order_ofRows] at hmem
  obtain ⟨k, hk, hkq⟩ := List.mem_map.mp hmem
  have := List.mem_range'_1.mp hk
  omega

end Question

/-! ## Groups of a part -/

section Part

open Question (ofRows raise)
open RepeatGroup (numbered innermost?)
open Repeat (Matched markersOf)

variable {columns : List String} {rows : List Row} {ps : List (Int × Int)} {free : List Int}

theorem Repeat.Matched.exists_question {qs : List Question} (hm : Matched (markersOf qs) ps free)
    {p : Int × Int} (hp : p ∈ ps) :
    (∃ q ∈ qs, q.order = p.1) ∧ (∃ q ∈ qs, q.order = p.2) := by
  obtain ⟨q, hq, -, hqp⟩ := exists_of_mem_markersOf (Marker.mem_orders.mp (hm.mem_opening hp))
  obtain ⟨q', hq', -, hqp'⟩ := exists_of_mem_markersOf (Marker.mem_orders.mp (hm.mem_closing hp))
  exact ⟨⟨q, hq, hqp⟩, ⟨q', hq', hqp'⟩⟩

/-- The groups of rows lie among the questions of these rows. -/
theorem RepeatGroup.bounds_of_mem_numbered (hm : Matched (markersOf (ofRows columns rows)) ps free)
    {qs : List Question} {n : Nat} {g : RepeatGroup} (hg : g ∈ numbered qs n ps) :
    1 ≤ g.first ∧ g.last ≤ (ofRows columns rows).length := by
  obtain ⟨⟨q, hq, hqg⟩, ⟨q', hq', hqg'⟩⟩ := hm.exists_question (bounds_mem_of_mem_numbered hg)
  have hfirst := (Question.order_of_mem_ofRows hq).1
  have hlast := (Question.order_of_mem_ofRows hq').2
  simp only at hqg hqg'
  omega

end Part

namespace Form

open Question (ofRows raise)
open RepeatGroup (numbered innermost?)
open Repeat (Matched markersOf)
open Dataset (place)

/-! ## Forms one behind the other -/

/-- The form `f` is `f₁` followed by `f₂`: the groups of `f₂` are renumbered, its orders raised, and
its datasets dropped where `f₁` has one of the name. Kinds and the datasets of questions stay. -/
structure IsAppend (f₁ f₂ f : Form) : Prop where
  groups : f.groups = f₁.groups ++
    f₂.groups.map (RepeatGroup.relabel f₁.groups.length (raise f₁.questions.length))
  questions : f.questions = f₁.questions ++
    f₂.questions.map (Question.moved f₁.groups.length (raise f₁.questions.length))
  datasets : f.datasets = Dataset.firstOfEachName
    (f₁.datasets ++ f₂.datasets.map (Dataset.relabel f₁.groups.length))
  names : ∀ d kind, f.catalog.names d kind = f₁.catalog.names d kind ++ f₂.catalog.names d kind

section Append

variable {columns : List String} {rows rows' : List Row} {ps ps' : List (Int × Int)}

theorem matched_append (hm : Matched (markersOf (ofRows columns rows)) ps [])
    (hm' : Matched (markersOf (ofRows columns rows')) ps' []) :
    Matched (markersOf (ofRows columns (rows ++ rows')))
      (ps ++ ps'.map fun p => (raise (ofRows columns rows).length p.1,
        raise (ofRows columns rows).length p.2)) [] := by
  rw [Question.ofRows_append, Repeat.markersOf_append, Repeat.markersOf_relabel]
  exact hm.append (hm'.map _)

/-- The groups of rows that go on: those of the first part, and those of the rest raised. -/
theorem numbered_ofRows_append (hm : Matched (markersOf (ofRows columns rows)) ps [])
    (hm' : Matched (markersOf (ofRows columns rows')) ps' []) :
    numbered (ofRows columns (rows ++ rows')) 1
        (ps ++ ps'.map fun p => (raise (ofRows columns rows).length p.1,
          raise (ofRows columns rows).length p.2)) =
      numbered (ofRows columns rows) 1 ps ++
        (numbered (ofRows columns rows') 1 ps').map
          (RepeatGroup.relabel ps.length (raise (ofRows columns rows).length)) := by
  have hd := (Question.ascending_ofRows columns (rows ++ rows')).distinctOrders
  rw [RepeatGroup.numbered_append]
  congr 1
  · refine RepeatGroup.numbered_of_part hd (Question.ascending_ofRows ..).distinctOrders ?_
      (fun p hp => (hm.exists_question hp).1) 1
    intro q hq
    rw [Question.ofRows_append]
    exact List.mem_append_left _ hq
  · refine RepeatGroup.numbered_relabel hd (Question.ascending_ofRows ..).distinctOrders ?_
      (fun p hp => (hm'.exists_question hp).1) 1 ps.length
    intro q hq
    rw [Question.ofRows_append]
    exact List.mem_append_right _ (List.mem_map_of_mem hq)

theorem place_ofRows_append (hm : Matched (markersOf (ofRows columns rows)) ps [])
    (hm' : Matched (markersOf (ofRows columns rows')) ps' []) {gs : List RepeatGroup}
    (hgs : gs = numbered (ofRows columns rows) 1 ps ++
      (numbered (ofRows columns rows') 1 ps').map
        (RepeatGroup.relabel ps.length (raise (ofRows columns rows).length)))
    (hindex : gs.Pairwise (·.index < ·.index)) :
    (ofRows columns (rows ++ rows')).map (place gs) =
      (ofRows columns rows).map (place (numbered (ofRows columns rows) 1 ps)) ++
        ((ofRows columns rows').map (place (numbered (ofRows columns rows') 1 ps'))).map
          (Question.moved ps.length (raise (ofRows columns rows).length)) := by
  rw [Question.ofRows_append, List.map_append, List.map_map, List.map_map]
  congr 1
  · refine List.map_congr_left fun q hq => ?_
    have hq' := Question.order_of_mem_ofRows hq
    refine Dataset.place_of_part hindex RepeatGroup.pairwise_index_numbered ?_ ?_
    · intro g hg
      rw [hgs]
      exact List.mem_append_left _ hg
    · rw [hgs]
      -- the groups of the rest begin behind the question
      refine RepeatGroup.innermost?_append_left fun g hg => ?_
      obtain ⟨g₀, hg₀, rfl⟩ := List.mem_map.mp hg
      have := RepeatGroup.bounds_of_mem_numbered hm' hg₀
      rw [Bool.eq_false_iff, ne_eq, RepeatGroup.contains_iff]
      simp only [RepeatGroup.relabel, raise]
      omega
  · refine List.map_congr_left fun q hq => ?_
    have hq' := Question.order_of_mem_ofRows hq
    refine Dataset.place_relabel hindex RepeatGroup.pairwise_index_numbered ?_ ?_
    · intro g hg
      rw [hgs]
      exact List.mem_append_right _ (List.mem_map_of_mem hg)
    · rw [hgs, RepeatGroup.innermost?_append_right]
      · exact RepeatGroup.innermost?_relabel (Question.raise_le_raise_iff _) _ _
      · -- the groups of the first part end before the question
        intro g hg
        have := RepeatGroup.bounds_of_mem_numbered hm hg
        rw [Bool.eq_false_iff, ne_eq, RepeatGroup.contains_iff]
        simp only [raise]
        omega

/-- What a catalog lists under a dataset and a kind, by the questions of the form. -/
theorem names_of_parse {survey choices : Sheet} {name : String} {f : Form}
    (h : parse survey choices name = .ok f) (d : String) (kind : QuestionKind) :
    f.catalog.names d kind =
      if kind.isScored then (f.questions.filter (Catalog.filed (d, kind))).map (·.name) else [] := by
  obtain ⟨cs, qs, gs, -, hq, -, rfl⟩ := parse_eq_ok_iff.mp h
  obtain ⟨-, rfl⟩ := loadQuestions_eq_ok_iff.mp hq
  exact names_analysed (Question.ascending_ofRows ..) d kind

/-- A form behind another one is analysed as it is alone. -/
theorem parse_append {survey survey' choices : Sheet} {name₁ name₂ : String} {f₁ f₂ : Form}
    (h₁ : parse survey choices name₁ = .ok f₁) (hcol : survey'.columns = survey.columns)
    (h₂ : parse survey' choices name₂ = .ok f₂) (name : String) :
    ∃ f, parse { survey with rows := survey.rows ++ survey'.rows } choices name = .ok f ∧
      IsAppend f₁ f₂ f := by
  have hnames₁ := names_of_parse h₁
  have hnames₂ := names_of_parse h₂
  obtain ⟨hloads, cs, ps, hcs, hm, rfl⟩ := parse_eq_ok_iff_matched.mp h₁
  obtain ⟨hloads', cs', ps', hcs', hm', rfl⟩ := parse_eq_ok_iff_matched.mp h₂
  have hrows' := hloads'.2
  unfold Question.Legible at hrows'
  rw [hcol] at hm' hnames₂ hrows' ⊢
  have hboth := hloads.append hrows'
  have hgroups := numbered_ofRows_append hm hm'
  have hparse : parse { survey with rows := survey.rows ++ survey'.rows } choices name = .ok _ :=
    parse_eq_ok_iff_matched.mpr ⟨hboth, cs, _, hcs, matched_append hm hm', rfl⟩
  have hquestions := place_ofRows_append hm hm' hgroups RepeatGroup.pairwise_index_numbered
  refine ⟨_, hparse, ?_, ?_, ?_, fun d kind => ?_⟩
  · simpa [analysed] using hgroups
  · simpa [analysed] using hquestions
  · show Dataset.build _ = _
    rw [hgroups, Dataset.build_append, Dataset.build_relabel]
    simp [analysed]
  · rw [names_of_parse hparse, hnames₁, hnames₂]
    simp only [analysed]
    rw [hquestions]
    by_cases hs : kind.isScored
    · simp only [hs, if_true, List.filter_append, List.map_append, List.filter_map, List.map_map]
      rfl
    · simp [hs]

end Append

/-! ## A form inside a repeat group -/

section Enclose

variable {columns : List String} {rows : List Row} {b e : Row} {opener closer : Question}
  {ps : List (Int × Int)}

/-- The group that an opening row makes around `n` questions. -/
def enclosing (opener : Question) (n : Nat) : RepeatGroup :=
  ⟨1, 1, n + 2, RepeatGroup.datasetNameOf opener, opener.name⟩

/-- A question as a member of a group. -/
def inside (g : RepeatGroup) (q : Question) : Question :=
  { q with group := some g.index, dataset := g.dataset }

/-- A question of a form after a new first group was put around the form: outside all groups it
becomes a member of the new one. -/
def enclosed (g : RepeatGroup) (q : Question) : Question :=
  match q.group with
  | none => inside g (q.relabel (raise 1))
  | some _ => q.moved 1 (raise 1)

/-- A question as it is read at a place. -/
def readAt (order : Int) (q : Question) : Question :=
  { q with order := order, kind := some q.classify }

/-- The form `f` is `f₁` between an opening row, read as `opener`, and a closing row, read as
`closer`: a new first group with the two rows at its ends, and everything else one further. -/
structure IsEnclosure (opener closer : Question) (f₁ f : Form) : Prop where
  groups : f.groups = enclosing opener f₁.questions.length ::
    f₁.groups.map (RepeatGroup.relabel 1 (raise 1))
  questions : f.questions =
    inside (enclosing opener f₁.questions.length) (readAt 1 opener) ::
      (f₁.questions.map (enclosed (enclosing opener f₁.questions.length)) ++
        [inside (enclosing opener f₁.questions.length) (readAt (f₁.questions.length + 2) closer)])

/-- A row of a type that opens a group and has a name is kept, and so is one that closes a group. -/
theorem exists_ofRow? (columns : List String) {row : Row} {word : String}
    (ht : (Text.words (Question.rowType row)).head? = some word)
    (hk : Question.rowName row ≠ "" ∨ word = Question.endRepeat) :
    ∃ q, Question.ofRow? columns row = some q ∧ q.base = word ∧
      q.name = Question.rowName row := by
  unfold Question.ofRow?
  have hkeep : ¬ (Question.rowName row = "" ∧
      (Text.words (Question.rowType row)).head? ≠ some Question.endRepeat) := by
    rintro ⟨hn, he⟩
    rcases hk with hk | rfl
    · exact hk hn
    · exact he ht
  simp only [hkeep, if_false]
  exact ⟨_, rfl, by simp [Question.base, ht], rfl⟩

@[simp] theorem order_readAt (o : Int) (q : Question) : (readAt o q).order = o := rfl

theorem relabel_readAt (f : Int → Int) (o : Int) (q : Question) :
    (readAt o q).relabel f = readAt (f o) q := by
  unfold readAt Question.relabel
  rfl

theorem markerKind?_readAt (o : Int) (q : Question) :
    Repeat.markerKind? (readAt o q) = Repeat.markerKind? q := by
  have hbase : (readAt o q).base = q.base := rfl
  unfold Repeat.markerKind?
  rw [hbase]

/-- The questions of rows are those of the rows that are kept, read at their places. -/
theorem ofRows_eq_map_readAt (columns : List String) (rows : List Row) :
    ofRows columns rows =
      ((rows.filterMap (Question.ofRow? columns)).zipIdx 1).map fun p => readAt (p.2 : Nat) p.1 := by
  unfold ofRows Question.classified Question.numbered
  rw [List.map_map]
  refine List.map_congr_left fun p _ => ?_
  have hkind : Question.classify { p.1 with order := (p.2 : Nat) } = p.1.classify :=
    Question.classify_congr rfl rfl rfl
  exact congrArg (fun k => { p.1 with order := ((p.2 : Nat) : Int), kind := some k }) hkind

theorem exists_row_of_mem_ofRows {q : Question} (hq : q ∈ ofRows columns rows) :
    ∃ row ∈ rows, ∃ q₀ n, Question.ofRow? columns row = some q₀ ∧ q = readAt n q₀ := by
  rw [ofRows_eq_map_readAt] at hq
  obtain ⟨p, hp, rfl⟩ := List.mem_map.mp hq
  obtain ⟨row, hrow, hread⟩ := List.mem_filterMap.mp (List.fst_mem_of_mem_zipIdx hp)
  exact ⟨row, hrow, p.1, p.2, hread, rfl⟩

theorem exists_readAt_mem_ofRows {row : Row} {q : Question} (hrow : row ∈ rows)
    (hread : Question.ofRow? columns row = some q) : ∃ n, readAt n q ∈ ofRows columns rows := by
  have hkept : q ∈ rows.filterMap (Question.ofRow? columns) :=
    List.mem_filterMap.mpr ⟨row, hrow, hread⟩
  rw [← List.zipIdx_map_fst 1 (rows.filterMap _)] at hkept
  obtain ⟨p, hp, rfl⟩ := List.mem_map.mp hkept
  rw [ofRows_eq_map_readAt]
  exact ⟨p.2, List.mem_map_of_mem hp⟩

theorem ofRows_singleton {row : Row} {q : Question} (h : Question.ofRow? columns row = some q) :
    ofRows columns [row] = [readAt 1 q] := by
  rw [ofRows_eq_map_readAt, List.filterMap_cons_some h, List.filterMap_nil, List.zipIdx_singleton,
    List.map_singleton]
  rfl

theorem ofRows_enclose (hb : Question.ofRow? columns b = some opener)
    (he : Question.ofRow? columns e = some closer) :
    ofRows columns ([b] ++ rows ++ [e]) =
      readAt 1 opener :: ((ofRows columns rows).map (Question.relabel (raise 1)) ++
        [readAt ((ofRows columns rows).length + 2) closer]) := by
  have hlast : raise (ofRows columns ([b] ++ rows)).length 1 = (ofRows columns rows).length + 2 := by
    rw [Question.ofRows_append, ofRows_singleton hb]
    simp only [raise, List.length_append, List.length_map, List.length_singleton]
    omega
  rw [Question.ofRows_append, ofRows_singleton he, List.map_singleton, relabel_readAt, hlast,
    Question.ofRows_append, ofRows_singleton hb, List.append_assoc]
  rfl

theorem matched_enclose (hb : Question.ofRow? columns b = some opener)
    (hopen : Repeat.markerKind? opener = some .opening)
    (he : Question.ofRow? columns e = some closer)
    (hclose : Repeat.markerKind? closer = some .closing)
    (hm : Matched (markersOf (ofRows columns rows)) ps []) :
    Matched (markersOf (ofRows columns ([b] ++ rows ++ [e])))
      ((1, (ofRows columns rows).length + 2) :: ps.map fun p => (raise 1 p.1, raise 1 p.2)) [] := by
  have hfirst : Repeat.markerKind? (readAt 1 opener) = some .opening :=
    (markerKind?_readAt ..).trans hopen
  have hlast : Repeat.markerKind? (readAt ((ofRows columns rows).length + 2) closer) =
      some .closing := (markerKind?_readAt ..).trans hclose
  rw [ofRows_enclose hb he, Repeat.markersOf_cons_of_marker hfirst, Repeat.markersOf_append,
    Repeat.markersOf_relabel, Repeat.markersOf_cons_of_marker hlast, Repeat.markersOf_nil]
  refine .opening 1 ?_
  have := (hm.map (raise 1)).append (Matched.closing ((ofRows columns rows).length + 2) .nil)
  simpa using this

theorem numbered_ofRows_enclose (hb : Question.ofRow? columns b = some opener)
    (he : Question.ofRow? columns e = some closer)
    (hm : Matched (markersOf (ofRows columns rows)) ps []) :
    numbered (ofRows columns ([b] ++ rows ++ [e])) 1
        ((1, (ofRows columns rows).length + 2) :: ps.map fun p => (raise 1 p.1, raise 1 p.2)) =
      enclosing opener (ofRows columns rows).length ::
        (numbered (ofRows columns rows) 1 ps).map (RepeatGroup.relabel 1 (raise 1)) := by
  have hd := (Question.ascending_ofRows columns ([b] ++ rows ++ [e])).distinctOrders
  have hat : RepeatGroup.questionAt? (ofRows columns ([b] ++ rows ++ [e])) 1 =
      some (readAt 1 opener) := by
    rw [RepeatGroup.questionAt?_eq_some_iff hd, ofRows_enclose hb he]
    exact ⟨List.mem_cons_self .., rfl⟩
  have hrest := RepeatGroup.numbered_relabel (f := raise 1) hd
    (Question.ascending_ofRows columns rows).distinctOrders
    (fun q hq => by
      rw [ofRows_enclose hb he]
      exact List.mem_cons_of_mem _ (List.mem_append_left _ (List.mem_map_of_mem hq)))
    (fun p hp => (hm.exists_question hp).1) 1 1
  rw [RepeatGroup.numbered_cons, hrest]
  unfold RepeatGroup.between
  rw [hat]
  rfl

/-- A question that only the first of the groups contains is a member of it. -/
theorem place_cons_of_not_contains {g : RepeatGroup} {gs : List RepeatGroup} {q : Question}
    (hindex : (g :: gs).Pairwise (·.index < ·.index)) (hg : g.contains q.order)
    (hgs : ∀ h ∈ gs, h.contains q.order = false) : place (g :: gs) q = inside g q := by
  have hin : innermost? (g :: gs) q.order = some g.index := by
    rw [RepeatGroup.innermost?_cons_of_contains hg (List.pairwise_cons.mp hindex).1,
      RepeatGroup.innermost?_eq_none_iff.mpr hgs]
    rfl
  have hname : Dataset.nameAt (g :: gs) (some g.index) = g.dataset :=
    Dataset.nameAt_of_mem hindex (List.mem_cons_self ..)
  unfold place inside
  rw [hin, hname]

/-- A question inside a new first group keeps the group it had, and joins the new one otherwise. -/
theorem place_cons_relabel {g : RepeatGroup} {gs : List RepeatGroup} {q : Question}
    (hindex : (g :: gs.map (RepeatGroup.relabel 1 (raise 1))).Pairwise (·.index < ·.index))
    (hindex' : gs.Pairwise (·.index < ·.index)) (hg : g.contains (raise 1 q.order)) :
    place (g :: gs.map (RepeatGroup.relabel 1 (raise 1))) (q.relabel (raise 1)) =
      enclosed g (place gs q) := by
  have hmap := RepeatGroup.innermost?_relabel (i := 1) (Question.raise_le_raise_iff 1) gs q.order
  unfold enclosed
  rw [Dataset.place_group]
  cases hi : innermost? gs q.order with
  | none =>
    rw [hi, Option.map_none, RepeatGroup.innermost?_eq_none_iff] at hmap
    exact place_cons_of_not_contains hindex hg hmap
  | some i =>
    refine Dataset.place_relabel hindex hindex' ?_ ?_
    · intro h hh
      exact List.mem_cons_of_mem _ (List.mem_map_of_mem hh)
    · rw [RepeatGroup.innermost?_cons_of_contains hg (List.pairwise_cons.mp hindex).1, hmap, hi]
      rfl

theorem place_ofRows_enclose (hb : Question.ofRow? columns b = some opener)
    (he : Question.ofRow? columns e = some closer)
    (hm : Matched (markersOf (ofRows columns rows)) ps []) {g : RepeatGroup}
    (hg : g = enclosing opener (ofRows columns rows).length)
    (hindex : (g :: (numbered (ofRows columns rows) 1 ps).map
      (RepeatGroup.relabel 1 (raise 1))).Pairwise (·.index < ·.index)) :
    (ofRows columns ([b] ++ rows ++ [e])).map
        (place (g :: (numbered (ofRows columns rows) 1 ps).map (RepeatGroup.relabel 1 (raise 1)))) =
      inside g (readAt 1 opener) ::
        (((ofRows columns rows).map (place (numbered (ofRows columns rows) 1 ps))).map
          (enclosed g) ++ [inside g (readAt ((ofRows columns rows).length + 2) closer)]) := by
  have hfirst : g.first = 1 := by rw [hg]; rfl
  have hlast : g.last = (ofRows columns rows).length + 2 := by rw [hg]; rfl
  -- the inner groups begin behind the opening row and end before the closing row
  have hinner : ∀ h ∈ (numbered (ofRows columns rows) 1 ps).map (RepeatGroup.relabel 1 (raise 1)),
      2 ≤ h.first ∧ h.last ≤ (ofRows columns rows).length + 1 := by
    intro h hh
    obtain ⟨h₀, hh₀, rfl⟩ := List.mem_map.mp hh
    have := RepeatGroup.bounds_of_mem_numbered hm hh₀
    simp only [RepeatGroup.relabel, raise]
    omega
  have hborder : ∀ (n : Int) (q : Question), n = 1 ∨ n = (ofRows columns rows).length + 2 →
      place (g :: (numbered (ofRows columns rows) 1 ps).map (RepeatGroup.relabel 1 (raise 1)))
        (readAt n q) = inside g (readAt n q) := by
    intro n q hn
    refine place_cons_of_not_contains hindex ?_ fun h hh => ?_
    · rw [RepeatGroup.contains_iff, order_readAt]
      omega
    · have := hinner h hh
      rw [Bool.eq_false_iff, ne_eq, RepeatGroup.contains_iff, order_readAt]
      omega
  have hrest : ∀ q ∈ ofRows columns rows,
      place (g :: (numbered (ofRows columns rows) 1 ps).map (RepeatGroup.relabel 1 (raise 1)))
        (q.relabel (raise 1)) =
      enclosed g (place (numbered (ofRows columns rows) 1 ps) q) := by
    intro q hq
    have := Question.order_of_mem_ofRows hq
    refine place_cons_relabel hindex RepeatGroup.pairwise_index_numbered ?_
    rw [RepeatGroup.contains_iff]
    simp only [raise]
    omega
  rw [ofRows_enclose hb he, List.map_cons, hborder 1 opener (Or.inl rfl), List.map_append,
    List.map_singleton, hborder _ closer (Or.inr rfl), List.map_map, List.map_map]
  refine congrArg (fun qs => _ :: (qs ++ _)) ?_
  exact List.map_congr_left hrest

/-- A form inside a repeat group is analysed as it is alone. -/
theorem parse_enclose {survey choices : Sheet} {name₁ : String} {f₁ : Form}
    (h₁ : parse survey choices name₁ = .ok f₁)
    (hopen : (Text.words (Question.rowType b)).head? = some Question.beginRepeat)
    (hname : Question.rowName b ≠ "")
    (hclose : (Text.words (Question.rowType e)).head? = some Question.endRepeat)
    (hopenTexts : Question.isLegible survey.columns b)
    (hcloseTexts : Question.isLegible survey.columns e) (name : String) :
    ∃ opener closer f,
      Question.ofRow? survey.columns b = some opener ∧
      Question.ofRow? survey.columns e = some closer ∧
      opener.name = Question.rowName b ∧
      parse { survey with rows := [b] ++ survey.rows ++ [e] } choices name = .ok f ∧
      IsEnclosure opener closer f₁ f := by
  obtain ⟨opener, hb, hopener, hbname⟩ :=
    exists_ofRow? survey.columns hopen (Or.inl hname)
  obtain ⟨closer, he, hcloser, -⟩ := exists_ofRow? survey.columns hclose (Or.inr rfl)
  have hkind : Repeat.markerKind? opener = some .opening := by
    unfold Repeat.markerKind?
    rw [hopener, if_pos rfl]
  have hkind' : Repeat.markerKind? closer = some .closing := by
    unfold Repeat.markerKind?
    rw [hcloser, if_neg (by decide), if_pos rfl]
  obtain ⟨hloads, cs, ps, hcs, hm, rfl⟩ := parse_eq_ok_iff_matched.mp h₁
  have hgroups := numbered_ofRows_enclose hb he hm
  have hall : Question.Loads { survey with rows := [b] ++ survey.rows ++ [e] } := by
    refine ⟨hloads.1, List.forall_mem_append.mpr ⟨List.forall_mem_append.mpr ⟨?_, hloads.2⟩, ?_⟩⟩
    · exact List.forall_mem_singleton.mpr hopenTexts
    · exact List.forall_mem_singleton.mpr hcloseTexts
  have hparse : parse { survey with rows := [b] ++ survey.rows ++ [e] } choices name = .ok _ :=
    parse_eq_ok_iff_matched.mpr
      ⟨hall, cs, _, hcs, matched_enclose hb hkind he hkind' hm, rfl⟩
  have hquestions := place_ofRows_enclose hb he hm rfl
    (hgroups ▸ RepeatGroup.pairwise_index_numbered)
  refine ⟨opener, closer, _, hb, he, hbname, hparse, ?_, ?_⟩
  · simpa [analysed] using hgroups
  · rw [← hgroups] at hquestions
    simpa [analysed] using hquestions

end Enclose

/-- Analysing a form is compositional. Behind a form that can be analysed, another one with the same
columns keeps its kinds and datasets; its groups are renumbered and all its orders raised. Between
an opening row with a name and a closing row, both legible, a form becomes the inside of a new first
group: the questions outside its groups join that group, and the others keep theirs. -/
theorem parse_compositional {survey choices : Sheet} {name₁ : String} {f₁ : Form}
    (h₁ : parse survey choices name₁ = .ok f₁) :
    (∀ survey' name₂ f₂ name, survey'.columns = survey.columns →
      parse survey' choices name₂ = .ok f₂ →
      ∃ f, parse { survey with rows := survey.rows ++ survey'.rows } choices name = .ok f ∧
        IsAppend f₁ f₂ f) ∧
    (∀ b e name, (Text.words (Question.rowType b)).head? = some Question.beginRepeat →
      Question.rowName b ≠ "" →
      (Text.words (Question.rowType e)).head? = some Question.endRepeat →
      Question.isLegible survey.columns b → Question.isLegible survey.columns e →
      ∃ opener closer f,
        Question.ofRow? survey.columns b = some opener ∧
        Question.ofRow? survey.columns e = some closer ∧
        opener.name = Question.rowName b ∧
        parse { survey with rows := [b] ++ survey.rows ++ [e] } choices name = .ok f ∧
        IsEnclosure opener closer f₁ f) := by
  constructor
  · intro survey' name₂ f₂ name hcol h₂
    exact parse_append h₁ hcol h₂ name
  · intro b e name hopen hname hclose hopenTexts hcloseTexts
    exact parse_enclose h₁ hopen hname hclose hopenTexts hcloseTexts name

theorem parse_compositional_nestedSurvey :
    (∃ f, parse { nestedSurvey with rows := nestedSurvey.rows ++ nestedSurvey.rows } noChoices
        "twice" = .ok f ∧
      f.groups.map (fun g => (g.index, g.first, g.last)) =
        [(1, 1, 3), (2, 4, 10), (3, 7, 9), (4, 11, 13), (5, 14, 20), (6, 17, 19)]) ∧
    (∃ f, parse { nestedSurvey with rows := [surveyRow "begin repeat" "r0" ""] ++
        nestedSurvey.rows ++ [surveyRow "end repeat" "" ""] } noChoices "inside" = .ok f ∧
      f.groups.map (fun g => (g.index, g.first, g.last)) =
        [(1, 1, 12), (2, 2, 4), (3, 5, 11), (4, 8, 10)]) := by
  have hparse := parse_nestedSurvey "nested"
  obtain ⟨happend, henclose⟩ := parse_compositional hparse
  constructor
  · obtain ⟨f, hf, hf'⟩ := happend nestedSurvey "nested" _ "twice" rfl hparse
    refine ⟨f, hf, ?_⟩
    rw [hf'.groups]
    decide +kernel
  · obtain ⟨opener, closer, f, -, -, -, hf, hf'⟩ :=
      henclose (surveyRow "begin repeat" "r0" "") (surveyRow "end repeat" "" "") "inside"
        (by decide +kernel) (by decide +kernel) (by decide +kernel) (by decide +kernel)
        (by decide +kernel)
    have hlength : (nestedForm "nested").questions.length = 10 := by decide +kernel
    have hrest : ((nestedForm "nested").groups.map (RepeatGroup.relabel 1 (raise 1))).map
        (fun g => (g.index, g.first, g.last)) = [(2, 2, 4), (3, 5, 11), (4, 8, 10)] := by
      decide +kernel
    refine ⟨f, hf, ?_⟩
    rw [hf'.groups, List.map_cons, hrest, hlength]
    rfl

/-! ## Integers with too many digits -/

/-- A row whose calculation is an integer with too many digits. -/
def overlongRow (type name : String) : Row :=
  [("type", .text type), ("name", .text name), ("calculation", .int Scalar.numeralBound)]

/-- A survey of one question, and rows before and behind it. -/
def ageSurvey (before after : List Row) : Sheet :=
  ⟨"survey", ["type", "name", "calculation"],
    before ++ [("type", .text "integer"), ("name", .text "age")] :: after⟩

theorem parse_ageSurvey : ∃ f, parse (ageSurvey [] []) noChoices "age" = .ok f :=
  ⟨_, parse_of_markers_nil ⟨rfl, Question.legible_of_isTextual rfl⟩ rfl (by decide +kernel)⟩

theorem parse_of_not_legible {survey : Sheet} (hcolumns : survey.missing ["type", "name"] = [])
    (h : ¬ Question.Legible survey) (name : String) :
    parse survey noChoices name = .error .numeralTooLong := by
  have hchoices : Choice.load noChoices = .ok [] := rfl
  exact parse_of_questions_error hchoices
    (loadQuestions_of_error (Question.load_of_not_legible hcolumns h))

/-- A survey of one group. -/
def roomsSurvey : Sheet :=
  { nestedSurvey with
    rows := [surveyRow "begin repeat" "r" "rooms", surveyRow "end repeat" "" ""] }

/-- The datasets of the second of two forms do not stay as they are, because their groups are
renumbered; and an opening row with an integer of too many digits cannot be read. -/
theorem not_compositional_of_index_and_numeral :
    (∃ f₂ f, parse roomsSurvey noChoices "rooms" = .ok f₂ ∧
      parse { nestedSurvey with rows := nestedSurvey.rows ++ roomsSurvey.rows } noChoices "both" =
        .ok f ∧
      f.datasets ≠
        Dataset.firstOfEachName ((nestedForm "nested").datasets ++ f₂.datasets)) ∧
    (∃ f, parse (ageSurvey [] []) noChoices "age" = .ok f) ∧
    parse (ageSurvey [overlongRow "begin repeat" "r0"] [[("type", .text "end repeat")]]) noChoices
      "inside" = .error .numeralTooLong := by
  refine ⟨?datasets, parse_ageSurvey, ?numeral⟩
  case datasets =>
    have hrooms : parse roomsSurvey noChoices "rooms" = .ok _ :=
      parse_of_markers_pair (i := 1) (j := 2) ⟨rfl, Question.legible_of_isTextual rfl⟩ rfl
        (by decide +kernel)
    have hcolumns : roomsSurvey.columns = nestedSurvey.columns := rfl
    obtain ⟨f, hf, hf'⟩ := parse_append (parse_nestedSurvey "nested") hcolumns hrooms "both"
    refine ⟨_, f, hrooms, hf, ?_⟩
    rw [hf'.datasets]
    decide +kernel
  case numeral =>
    refine parse_of_not_legible rfl ?_ "inside"
    unfold Question.Legible
    decide +kernel

end Form

end SurveyChecks
