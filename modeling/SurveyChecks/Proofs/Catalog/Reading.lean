import SurveyChecks.Proofs.Catalog.RoundTrip

/-!
# Catalogs read from documents

Which documents are catalogs. A document lists datasets, and under datasets the names of the
variables by the words of their kinds; both lists may be missing or null, and so may names. It is
read just when every word stands for a scored kind, and then the catalog has the names listed and no
others; otherwise the first word that does not is reported.
-/

namespace SurveyChecks

open SurveyChecks.Text

/-! ## Maps and lists side by side -/

namespace OrderedMap

variable {κ : Type u} {κ' : Type u'} {α : Type v} {β : Type v'} [BEq κ] [BEq κ']

/-- A key that is not there goes to the end. -/
theorem insert_of_not_mem {m : OrderedMap κ α} {k : κ} {v : α} (h : ∀ p ∈ m, (p.1 == k) = false) :
    m.insert k v = m ++ [(k, v)] := by
  induction m with
  | nil => rfl
  | cons p m ih =>
    obtain ⟨hp, hm⟩ := List.forall_mem_cons.mp h
    have htail : update (fun _ => v) k m = m ++ [(k, v)] := ih hm
    rw [insert, update, if_neg (by simp [hp]), htail, List.cons_append]

/-- Pairs with different keys are a map as they are. -/
theorem ofPairs_eq_self {ps : List (κ × α)} (h : ps.Pairwise fun p q => (p.1 == q.1) = false) :
    ofPairs ps = ps := by
  have hfold : ∀ m : OrderedMap κ α, (m ++ ps).Pairwise (fun p q => (p.1 == q.1) = false) →
      ps.foldl (fun m p => m.insert p.1 p.2) m = m ++ ps := by
    clear h
    induction ps with
    | nil => simp
    | cons q ps ih =>
      intro m hm
      have hnew : ∀ p ∈ m, (p.1 == q.1) = false := fun p hp =>
        (List.pairwise_append.mp hm).2.2 p hp q (List.mem_cons_self ..)
      rw [List.foldl_cons, insert_of_not_mem hnew, ih]
      · simp
      · simpa using hm
  exact hfold [] h

theorem get?_append (m m' : OrderedMap κ α) (k : κ) :
    get? (m ++ m') k = (get? m k).or (get? m' k) := by
  unfold get?
  rw [List.find?_append]
  cases m.find? (·.1 == k) <;> rfl

/-- Maps side by side, of which a key finds the same place in both, have values side by side under
the key. -/
theorem rel_get? {R : α → β → Prop} {m : OrderedMap κ α} {m' : OrderedMap κ' β} {k : κ} {k' : κ'}
    (h : List.Forall₂ (fun p q => (p.1 == k) = (q.1 == k') ∧ R p.2 q.2) m m') :
    Option.Rel R (get? m k) (get? m' k') := by
  induction h with
  | nil => exact .none
  | @cons p q _ _ hpq _ ih =>
    rw [get?_cons, get?_cons, ← hpq.1]
    split
    · exact .some hpq.2
    · exact ih

theorem exists_of_mem_right {R : α → β → Prop} {as : List α} {bs : List β} {b : β}
    (h : List.Forall₂ R as bs) (hb : b ∈ bs) : ∃ a, R a b := by
  induction h with
  | nil => simp at hb
  | cons hab _ ih =>
    rcases List.mem_cons.mp hb with rfl | hb
    · exact ⟨_, hab⟩
    · exact ih hb

theorem forall₂_getD {R : α → β → Prop} {as : Option (List α)} {bs : Option (List β)}
    (h : Option.Rel (List.Forall₂ R) as bs) : List.Forall₂ R (as.getD []) (bs.getD []) := by
  cases h with
  | none => exact .nil
  | some h => exact h

end OrderedMap

namespace Data

/-- Reading item by item succeeds when no item is an offence, and fails with an error about the
first that is. -/
theorem mapM_outcome {α β γ δ ε : Type} {f : α → Except ε β} {offence : γ → Option δ}
    {R : γ → α → Prop} {Q : γ → β → Prop} {P : δ → ε → Prop} {cs : List γ} {xs : List α}
    (hok : ∀ c x, R c x → offence c = none → ∃ y, f x = .ok y ∧ Q c y)
    (herror : ∀ c x w, R c x → offence c = some w → ∃ e, f x = .error e ∧ P w e)
    (h : List.Forall₂ R cs xs) :
    (cs.findSome? offence = none → ∃ ys, xs.mapM f = .ok ys ∧ List.Forall₂ Q cs ys) ∧
      ∀ w, cs.findSome? offence = some w → ∃ e, xs.mapM f = .error e ∧ P w e := by
  induction h with
  | nil => exact ⟨fun _ => ⟨[], rfl, .nil⟩, fun w hw => by simp at hw⟩
  | @cons c x cs xs hcx _ ih =>
    rw [List.findSome?_cons, List.mapM_cons]
    cases hc : offence c with
    | none =>
      obtain ⟨y, hy, hQ⟩ := hok c x hcx hc
      rw [hy]
      refine ⟨fun hnone => ?_, fun w hw => ?_⟩
      · obtain ⟨ys, hys, hQs⟩ := ih.1 hnone
        exact ⟨y :: ys, by rw [hys]; rfl, .cons hQ hQs⟩
      · obtain ⟨e, he, hP⟩ := ih.2 w hw
        exact ⟨e, by rw [he]; rfl, hP⟩
    | some w₀ =>
      obtain ⟨e, he, hP⟩ := herror c x w₀ hcx hc
      refine ⟨fun hnone => by simp at hnone, fun w hw => ?_⟩
      obtain rfl := Option.some.inj hw
      exact ⟨e, by rw [he]; rfl, hP⟩

/-! ## Texts -/

section Texts

variable {s : String} {d : Data}

theorem hasTextBy_unnamed (knot : Knot → Bool) :
    (d : Data) → d.unnamed.hasTextBy knot = d.hasTextBy knot
  | .named _ d => by
    rw [unnamed, hasTextBy]
    exact hasTextBy_unnamed knot d
  | .scalar _ | .list _ | .pair _ _ | .set _ | .map _ | .knot _ => by simp [unnamed]

theorem shownBy_unnamed (knot : Knot → String) :
    (d : Data) → d.unnamed.shownBy knot = d.shownBy knot
  | .named _ d => by
    rw [unnamed, shownBy]
    exact shownBy_unnamed knot d
  | .scalar _ | .list _ | .pair _ _ | .set _ | .map _ | .knot _ => by simp [unnamed]

theorem interpolated_of_unnamed {a : Scalar} :
    {d : Data} → d.unnamed = .scalar a → d.interpolated = a.interpolated
  | .named _ d, h => by
    rw [unnamed] at h
    rw [interpolated]
    exact interpolated_of_unnamed h
  | .scalar _, h => by
    obtain rfl : _ = a := by simpa [unnamed] using h
    rw [interpolated]
  | .list _, h | .pair _ _, h | .set _, h | .map _, h | .knot _, h => by simp [unnamed] at h

theorem Denotes.hasText (h : Denotes s d) : d.hasText = true := by
  rw [Data.hasText, ← hasTextBy_unnamed, h, hasTextBy]
  rfl

theorem Denotes.shown (h : Denotes s d) : d.shown = quoted s := by
  rw [Data.shown, ← shownBy_unnamed, h, shownBy]
  rfl

theorem Denotes.interpolated (h : Denotes s d) : d.interpolated = s :=
  interpolated_of_unnamed h

theorem unnamed_record (fields : List (String × Data)) :
    (record fields).unnamed = .map (fields.map fun p => (text p.1, p.2)) := by
  rw [record, unnamed]
  simp

end Texts

/-! ## Lists that may be missing -/

/-- A value is a map whose entries go with given ones, or it is null and there are none. -/
inductive ListsEntries {α : Type} (R : α → Data × Data → Prop) : List α → Data → Prop where
  | null {x : Data} : x.unnamed = .null → ListsEntries R [] x
  | map {x : Data} {as : List α} {es : List (Data × Data)} : x.unnamed = .map es →
      List.Forall₂ R as es → ListsEntries R as x

/-- A value is a list of texts, or it is null and there are none. -/
inductive ListsTexts : List String → Data → Prop where
  | null {x : Data} : x.unnamed = .null → ListsTexts [] x
  | list {x : Data} {ss : List String} {ys : List Data} : x.unnamed = .list ys →
      List.Forall₂ Denotes ss ys → ListsTexts ss x

theorem isTruthy_of_null {x : Data} (h : x.unnamed = .null) : x.isTruthy = false := by
  rw [← isTruthy_unnamed, h, isTruthy]
  rfl

theorem ListsEntries.givenEntries {α : Type} {R : α → Data × Data → Prop} {as : List α} {x : Data}
    (h : ListsEntries R as x) :
    ∃ es, (if x.isTruthy then x.entries else .ok []) = .ok es ∧ List.Forall₂ R as es := by
  cases h with
  | null hx => exact ⟨[], if_neg (by simp [isTruthy_of_null hx]), .nil⟩
  | @map _ _ es hx hes =>
    refine ⟨es, ?_, hes⟩
    rw [isTruthy_of_unnamed hx, entries_of_unnamed hx]
    cases es <;> rfl

theorem ListsTexts.givenElements {ss : List String} {x : Data} (h : ListsTexts ss x) :
    ∃ ys, x.givenElements = .ok ys ∧ List.Forall₂ Denotes ss ys := by
  cases h with
  | null hx => exact ⟨[], if_neg (by simp [isTruthy_of_null hx]), .nil⟩
  | list hx hys => exact ⟨_, givenElements_of_unnamed hx, hys⟩

theorem listsTexts_texts (ss : List String) : ListsTexts ss (texts ss) := by
  have hlist : (texts ss).unnamed = .list (ss.map text) := by simp [texts, unnamed]
  exact .list hlist
    (List.forall₂_map_right_iff.mpr (List.forall₂_same.mpr fun s _ => denotes_text s))

end Data

namespace Catalog

open OrderedMap (get?)
open QuestionKind (scored)
open Data (text texts record)

/-! ## Listings -/

/-- Under each dataset, names by the words of kinds. -/
abbrev Listing := List (String × List (String × List String))

/-- Whether a word stands for a scored kind. -/
def isScoredWord (w : String) : Bool := (scored.map QuestionKind.word).contains w

/-- A word as an offence, when it stands for no scored kind. -/
def offence (w : String) : Option String := if isScoredWord w then none else some w

namespace Listing

/-- The words of a listing in order. -/
def words (l : Listing) : List String := l.flatMap fun p => p.2.map (·.1)

/-- The names listed under a dataset and a kind. -/
def names (l : Listing) (d : String) (k : QuestionKind) : List String :=
  (get? ((get? l d).getD []) k.word).getD []

/-- The datasets that have a word, in order. -/
def filledDatasets (l : Listing) : List String := (l.filter (!·.2.isEmpty)).map (·.1)

/-- The names of a listing with their dataset and word, in order. -/
def cells (l : Listing) : List ((String × String) × List String) :=
  l.flatMap fun p => p.2.map fun q => ((p.1, q.1), q.2)

/-- A listing has each dataset once, and under it each word once. -/
structure IsProper (l : Listing) : Prop where
  datasets : (l.map (·.1)).Nodup
  words : ∀ p ∈ l, (p.2.map (·.1)).Nodup

variable {l : Listing} {p : String × List (String × List String)} {d w : String}

theorem find?_words (l : Listing) :
    l.words.find? (!isScoredWord ·) = l.findSome? fun p => p.2.findSome? fun q => offence q.1 := by
  have hguard : ∀ ws : List String, ws.find? (!isScoredWord ·) = ws.findSome? offence := by
    intro ws
    rw [← List.findSome?_guard]
    congr 1
    funext w
    cases hw : isScoredWord w <;> simp [Option.guard, offence, hw]
  unfold words
  rw [List.find?_flatMap]
  congr 1
  funext p
  rw [hguard, List.findSome?_map]
  rfl

theorem cells_cons (p : String × List (String × List String)) (l : Listing) :
    cells (p :: l) = (p.2.map fun q => ((p.1, q.1), q.2)) ++ cells l := rfl

theorem IsProper.tail (h : IsProper (p :: l)) : p.1 ∉ l.map (·.1) ∧ IsProper l :=
  ⟨(List.nodup_cons.mp h.datasets).1, (List.nodup_cons.mp h.datasets).2,
    fun q hq => h.words q (List.mem_cons_of_mem _ hq)⟩

theorem exists_of_mem_cells {c : (String × String) × List String} (h : c ∈ l.cells) :
    ∃ p ∈ l, c.1.1 = p.1 ∧ (c.1.2, c.2) ∈ p.2 := by
  obtain ⟨p, hp, hc⟩ := List.mem_flatMap.mp h
  obtain ⟨q, hq, rfl⟩ := List.mem_map.mp hc
  exact ⟨p, hp, rfl, hq⟩

theorem IsProper.nodup_cells (h : l.IsProper) : (l.cells.map (·.1)).Nodup := by
  induction l with
  | nil => simp [cells]
  | cons p l ih =>
    obtain ⟨hp, hl⟩ := h.tail
    rw [cells_cons, List.map_append, List.nodup_append', List.map_map]
    refine ⟨?_, ih hl, ?_⟩
    · have hwords := (h.words p (List.mem_cons_self ..)).map (Prod.mk_right_injective p.1)
      rwa [List.map_map] at hwords
    · intro k hk hk'
      obtain ⟨q, -, rfl⟩ := List.mem_map.mp hk
      obtain ⟨c, hc, heq⟩ := List.mem_map.mp hk'
      obtain ⟨p', hp', hpc, -⟩ := exists_of_mem_cells hc
      have hsame : p.1 = p'.1 := (congrArg Prod.fst heq).symm.trans hpc
      exact hp (hsame ▸ List.mem_map_of_mem hp')

/-- The names listed are found among the cells. -/
theorem get?_cells (h : (l.map (·.1)).Nodup) (d w : String) :
    get? l.cells (d, w) = get? ((get? l d).getD []) w := by
  induction l with
  | nil => rfl
  | cons p l ih =>
    obtain ⟨hp, hl⟩ := List.nodup_cons.mp h
    rw [cells_cons, OrderedMap.get?_append, ih hl, OrderedMap.get?_cons]
    by_cases hd : p.1 = d
    · subst hd
      have hown : get? (p.2.map fun q => ((p.1, q.1), q.2)) (p.1, w) = get? p.2 w :=
        OrderedMap.get?_mapKeys (g := fun w => (p.1, w)) fun k _ => by
          show (p.1 == p.1 && k == w) = (k == w)
          rw [beq_self_eq_true, Bool.true_and]
      have hnone : get? l p.1 = none := by
        refine Option.eq_none_iff_forall_ne_some.mpr fun kinds hkinds => hp ?_
        exact List.mem_map_of_mem (f := (·.1)) (OrderedMap.mem_of_get?_eq_some hkinds)
      rw [hown, hnone, beq_self_eq_true, if_pos rfl]
      exact Option.or_none
    · have hnone : get? (p.2.map fun q => ((p.1, q.1), q.2)) (d, w) = none := by
        refine Option.eq_none_iff_forall_ne_some.mpr fun ns hns => hd ?_
        obtain ⟨q, -, hq⟩ := List.mem_map.mp (OrderedMap.mem_of_get?_eq_some hns)
        exact congrArg (·.1.1) hq
      rw [hnone, Option.none_or, if_neg (by simpa using hd)]

end Listing

/-! ## Words that are rejected -/

/-- An error is about a word, which stands for no kind, or for one that is not scored. -/
inductive Blames (w : String) : CatalogError → Prop where
  | unknown {x : Data} : Data.Denotes w x → (∀ k : QuestionKind, k.word ≠ w) →
      Blames w (.unknownKind x)
  | unscored {x : Data} (k : QuestionKind) : Data.Denotes w x → k.word = w → k ∉ scored →
      Blames w (.unscoredKind x)

/-- What is said of a word that stands for no scored kind. -/
def rejection (w : String) : String :=
  if QuestionKind.all.any (·.word == w) then w ++ " is not a catalog question type"
  else quoted w ++ " is not a valid QuestionType"

section Words

variable {w d : String} {x y z : Data} {ss : List String}

theorem isScoredWord_iff : isScoredWord w ↔ ∃ k ∈ scored, k.word = w := by
  rw [isScoredWord, List.contains_iff_mem, List.mem_map]

theorem offence_eq_none_iff : offence w = none ↔ ∃ k ∈ scored, k.word = w := by
  rw [← isScoredWord_iff, offence]
  cases isScoredWord w <;> simp

theorem offence_eq_some_iff {u : String} :
    offence w = some u ↔ u = w ∧ ¬ ∃ k ∈ scored, k.word = w := by
  rw [← isScoredWord_iff, offence]
  cases isScoredWord w <;> simp [eq_comm]

theorem Blames.message {e : CatalogError} (h : Blames w e) : e.message? = some (rejection w) := by
  unfold rejection
  cases h with
  | unknown hx hw =>
    have hany : QuestionKind.all.any (·.word == w) = false := by
      simpa using fun k _ => hw k
    rw [hany, CatalogError.message?, if_pos hx.hasText, hx.shown]
    rfl
  | unscored k hx hw hk =>
    have hany : QuestionKind.all.any (·.word == w) = true :=
      List.any_eq_true.mpr ⟨k, k.mem_all, by simpa using hw⟩
    rw [hany, CatalogError.message?, hx.interpolated]
    rfl

/-- A word that stands for no scored kind is rejected. -/
theorem exists_kindOf_eq_error (hx : Data.Denotes w x) (hw : ¬ ∃ k ∈ scored, k.word = w) :
    ∃ e, kindOf x = .error e ∧ Blames w e := by
  unfold kindOf
  rw [hx]
  dsimp only
  cases hk : QuestionKind.ofWord? w with
  | none =>
    refine ⟨_, rfl, .unknown hx fun k hkw => ?_⟩
    rw [← hkw, QuestionKind.ofWord?_word] at hk
    contradiction
  | some k =>
    have hkw : k.word = w := by simpa using List.find?_some hk
    have hscored : k ∉ scored := fun hmem => hw ⟨k, hmem, hkw⟩
    refine ⟨.unscoredKind x, ?_, .unscored k hx hkw hscored⟩
    exact if_neg (by simpa [QuestionKind.isScored] using hscored)

end Words

/-! ## Reading listings -/

/-- An entry of a map from words to names goes with a word and its names. -/
def IsNamesEntry (q : String × List String) (e : Data × Data) : Prop :=
  Data.Denotes q.1 e.1 ∧ Data.ListsTexts q.2 e.2

/-- An entry of a map from datasets to maps from words to names goes with a dataset and its
words. -/
def IsDatasetEntry (p : String × List (String × List String)) (e : Data × Data) : Prop :=
  Data.Denotes p.1 e.1 ∧ ∃ es, e.2.unnamed = .map es ∧ List.Forall₂ IsNamesEntry p.2 es

/-- An item of a catalog of values holds the names of a cell, under its dataset and the kind that
its word stands for. -/
structure HoldsCell (c : (String × String) × List String) (it : Item) : Prop where
  dataset : Data.Denotes c.1.1 it.1.1
  word : it.1.2.word = c.1.2
  names : List.Forall₂ Data.Denotes c.2 it.2

section Reading

variable {x : Data} {d w : String} {e : Data × Data} {q : String × List String}
  {p : String × List (String × List String)}

theorem exists_bucketOf_eq_ok (hx : Data.Denotes d x) (he : IsNamesEntry q e)
    (hq : offence q.1 = none) :
    ∃ it, bucketOf x e = .ok it ∧ HoldsCell ((d, q.1), q.2) it := by
  obtain ⟨k, hk, hkw⟩ := offence_eq_none_iff.mp hq
  obtain ⟨ys, hys, hdenotes⟩ := he.2.givenElements
  refine ⟨((x, k), ys), ?_, hx, hkw, hdenotes⟩
  rw [bucketOf, kindOf_of_denotes hk (hkw ▸ he.1), hys]
  rfl

theorem exists_bucketOf_eq_error (he : IsNamesEntry q e) (hq : offence q.1 = some w) :
    ∃ err, bucketOf x e = .error err ∧ Blames w err := by
  obtain ⟨rfl, hw⟩ := offence_eq_some_iff.mp hq
  obtain ⟨err, herr, hblames⟩ := exists_kindOf_eq_error he.1 hw
  refine ⟨err, ?_, hblames⟩
  rw [bucketOf, herr]
  rfl

/-- The words of a dataset are read as its items, up to the first offence. -/
theorem bucketsOf_outcome (he : IsDatasetEntry p e) :
    ((p.2.findSome? fun q => offence q.1) = none → ∃ its, bucketsOf e = .ok its ∧
      List.Forall₂ (fun q it => HoldsCell ((p.1, q.1), q.2) it) p.2 its) ∧
    ∀ w, (p.2.findSome? fun q => offence q.1) = some w →
      ∃ err, bucketsOf e = .error err ∧ Blames w err := by
  obtain ⟨hx, es, hes, hentries⟩ := he
  have hbuckets : bucketsOf e = es.mapM (bucketOf e.1) := by
    rw [bucketsOf, Data.entries_of_unnamed hes]
    rfl
  rw [hbuckets]
  exact Data.mapM_outcome (fun _ _ hq => exists_bucketOf_eq_ok hx hq)
    (fun _ _ _ hq => exists_bucketOf_eq_error hq) hentries

/-- A listing is read as its items, up to the first offence. -/
theorem mapM_bucketsOf_outcome {l : Listing} {es : List (Data × Data)}
    (h : List.Forall₂ IsDatasetEntry l es) :
    (l.words.find? (!isScoredWord ·) = none → ∃ buckets, es.mapM bucketsOf = .ok buckets ∧
      List.Forall₂ HoldsCell l.cells buckets.flatten) ∧
    ∀ w, l.words.find? (!isScoredWord ·) = some w →
      ∃ err, es.mapM bucketsOf = .error err ∧ Blames w err := by
  rw [Listing.find?_words]
  obtain ⟨hok, herror⟩ := Data.mapM_outcome (R := IsDatasetEntry)
    (fun _ _ he => (bucketsOf_outcome he).1) (fun _ _ _ he => (bucketsOf_outcome he).2 _) h
  refine ⟨fun hnone => ?_, herror⟩
  obtain ⟨buckets, hbuckets, hholds⟩ := hok hnone
  refine ⟨buckets, hbuckets, ?_⟩
  rw [← List.flatMap_id]
  refine List.rel_flatMap hholds fun p its hits => ?_
  exact List.forall₂_map_left_iff.mpr hits

end Reading

/-! ## Catalogs of items -/

section Items

variable {l : Listing} {its : List Item} {c : (String × String) × List String} {it : Item}
  {ds : List String} {ys : List Data}

/-- Items that hold the cells of a listing have different keys. -/
theorem ofPairs_of_holdsCell (hl : l.IsProper) (h : List.Forall₂ HoldsCell l.cells its) :
    OrderedMap.ofPairs its = its := by
  have hkeys : l.cells.map (·.1) = its.map fun it => ((keyOf it.1).1, (keyOf it.1).2.word) := by
    rw [← List.forall₂_eq_eq_eq, List.forall₂_map_left_iff, List.forall₂_map_right_iff]
    refine h.imp fun c it hc => ?_
    rw [keyOf_of_denotes hc.dataset it.1.2, hc.word]
  have hdenotes : ∀ it ∈ its, ∃ d, Data.Denotes d it.1.1 := by
    intro it hit
    obtain ⟨c, hc⟩ := OrderedMap.exists_of_mem_right h hit
    exact ⟨_, hc.dataset⟩
  have hnodup := hl.nodup_cells
  rw [hkeys] at hnodup
  refine OrderedMap.ofPairs_eq_self ((List.pairwise_map.mp hnodup).imp_of_mem ?_)
  intro a b ha hb hne
  obtain ⟨_, hda⟩ := hdenotes a ha
  obtain ⟨_, hdb⟩ := hdenotes b hb
  rw [← keyOf_beq hda hdb]
  exact beq_eq_false_iff_ne.mpr fun heq => hne (by rw [heq])

/-- Under a dataset and a kind stand the names of the listing. -/
theorem denotes_names_of_holdsCell (hl : l.IsProper) (h : List.Forall₂ HoldsCell l.cells its)
    {d : String} {x : Data} (hx : Data.Denotes d x) (k : QuestionKind) :
    List.Forall₂ Data.Denotes (l.names d k) ((get? its (x, k)).getD []) := by
  rw [Listing.names, ← Listing.get?_cells hl.datasets]
  refine OrderedMap.forall₂_getD (OrderedMap.rel_get? (h.imp fun c it hc => ⟨?_, hc.names⟩))
  have hkind : (c.1.2 == k.word) = (it.1.2 == k) := by
    rw [← hc.word, Bool.eq_iff_iff, beq_iff_eq, beq_iff_eq]
    exact ⟨QuestionKind.word_injective, congrArg QuestionKind.word⟩
  show (c.1.1 == d && c.1.2 == k.word) = (it.1.1 == x && it.1.2 == k)
  rw [hc.dataset.beq_eq hx, hkind]

theorem denotes_foldl_addDataset {ls : List String} {xs : List Data}
    (h : List.Forall₂ Data.Denotes ls xs) (hds : List.Forall₂ Data.Denotes ds ys) :
    List.Forall₂ Data.Denotes (ls.foldl addDataset ds) (xs.foldl addDataset ys) := by
  refine List.rel_foldl (fun ds ys hds d x hx => ?_) hds h
  have hcontains : ys.contains x = ds.contains d := by
    induction hds with
    | nil => rfl
    | cons hsy _ ih => rw [List.contains_cons, List.contains_cons, ih, hx.beq_eq hsy]
  unfold addDataset
  rw [hcontains]
  split
  · exact hds
  · exact List.rel_append hds (.cons hx .nil)

theorem filledDatasets_cons (p : String × List (String × List String)) (l : Listing) :
    Listing.filledDatasets (p :: l) =
      if p.2.isEmpty then Listing.filledDatasets l else p.1 :: Listing.filledDatasets l := by
  unfold Listing.filledDatasets
  cases hp : p.2.isEmpty <;> simp [hp]

theorem mem_addDataset {d' d : String} : d' ∈ addDataset ds d ↔ d' ∈ ds ∨ d' = d := by
  rw [← List.mem_singleton]
  exact @mem_foldl_addDataset d' [d] ds

/-- The datasets of the cells come behind those given. -/
theorem foldl_addDataset_cells (h : (l.map (·.1)).Nodup) (ds : List String) :
    (l.cells.map (·.1.1)).foldl addDataset ds =
      ds ++ l.filledDatasets.filter (!ds.contains ·) := by
  induction l generalizing ds with
  | nil => simp [Listing.cells, Listing.filledDatasets]
  | cons p l ih =>
    obtain ⟨hp, hl⟩ := List.nodup_cons.mp h
    obtain ⟨d, kinds⟩ := p
    rw [Listing.cells_cons, List.map_append, List.foldl_append, ih hl, filledDatasets_cons]
    cases kinds with
    | nil => rfl
    | cons q kinds =>
      -- the first cell adds the dataset, the others find it
      have hfirst : (((q :: kinds).map fun q => ((d, q.1), q.2)).map (·.1.1)).foldl addDataset ds =
          addDataset ds d := by
        rw [List.map_map, List.map_cons, List.foldl_cons]
        refine foldl_addDataset fun d' hd' => ?_
        obtain ⟨_, -, rfl⟩ := List.mem_map.mp hd'
        exact List.contains_iff_mem.mpr (mem_addDataset.mpr (Or.inr rfl))
      have hrest : (Listing.filledDatasets l).filter (!(addDataset ds d).contains ·) =
          (Listing.filledDatasets l).filter (!ds.contains ·) := by
        refine List.filter_congr fun d' hd' => ?_
        have hne : d' ≠ d := by
          rintro rfl
          obtain ⟨p', hp', heq⟩ := List.mem_map.mp hd'
          exact hp (List.mem_map.mpr ⟨p', (List.mem_filter.mp hp').1, heq⟩)
        rw [Bool.eq_iff_iff]
        simp [mem_addDataset, hne]
      rw [hfirst, hrest, List.isEmpty_cons, if_neg Bool.false_ne_true, List.filter_cons]
      unfold addDataset
      cases hd : ds.contains d <;> simp

end Items

/-! ## Documents -/

/-- A document lists datasets, and names under datasets and words. Both lists may be missing or
null, and so may names. -/
structure Describes (v : Data) (ds : List String) (l : Listing) : Prop where
  proper : l.IsProper
  fields : ∃ m, v.unnamed = .map m ∧ Data.ListsTexts ds ((field? m "datasets").getD .null) ∧
    Data.ListsEntries IsDatasetEntry l ((field? m "variables").getD .null)

section Documents

variable {v : Data} {ds : List String} {l : Listing}

/-- A document is read as a catalog of the items and the datasets that it lists, up to the first
offence. -/
theorem Describes.ofData_outcome (h : Describes v ds l) :
    (l.words.find? (!isScoredWord ·) = none → ∃ its ys, ofData v = .ok (ofBuckets its ys) ∧
      List.Forall₂ HoldsCell l.cells its ∧ List.Forall₂ Data.Denotes ds ys) ∧
    ∀ w, l.words.find? (!isScoredWord ·) = some w → ∃ e, ofData v = .error e ∧ Blames w e := by
  obtain ⟨m, hm, hdatasets, hvariables⟩ := h.fields
  obtain ⟨ys, hys, hdenotes⟩ := hdatasets.givenElements
  obtain ⟨es, hes, hentries⟩ := hvariables.givenEntries
  obtain ⟨hok, herror⟩ := mapM_bucketsOf_outcome hentries
  have hread : ofData v = (es.mapM bucketsOf).bind fun buckets =>
      .ok (ofBuckets (OrderedMap.ofPairs buckets.flatten) ys) := by
    unfold ofData
    simp only [Data.entries_of_unnamed hm, Except.mapError, bind, Except.bind, hys]
    split at hes
    · rename_i htruthy
      rw [if_pos htruthy, hes]
      rfl
    · rename_i hfalse
      rw [if_neg hfalse, ← Except.ok.inj hes]
      rfl
  rw [hread]
  refine ⟨fun hnone => ?_, fun w hw => ?_⟩
  · obtain ⟨buckets, hbuckets, hholds⟩ := hok hnone
    refine ⟨buckets.flatten, ys, ?_, hholds, hdenotes⟩
    rw [hbuckets, Except.bind, ofPairs_of_holdsCell h.proper hholds]
  · obtain ⟨e, he, hblames⟩ := herror w hw
    refine ⟨e, ?_, hblames⟩
    rw [he]
    rfl

theorem find?_words_eq_none_iff :
    l.words.find? (!isScoredWord ·) = none ↔ ∀ w ∈ l.words, ∃ k ∈ scored, k.word = w := by
  simp only [List.find?_eq_none, Bool.not_eq_true', Bool.not_eq_false, isScoredWord_iff]

/-- A document that lists names under datasets and words is read as a catalog just when every word
stands for a scored kind. Otherwise the first word that does not is reported, as one for no kind or
for a kind that is not scored. A catalog that is read has the names listed, and none where there are
none listed; its datasets are those listed and, behind them, those that have a word and are not
among them, in order. -/
theorem ofData_reads (h : Describes v ds l) :
    ((∃ c, ofData v = .ok c) ↔ ∀ w ∈ l.words, ∃ k ∈ scored, k.word = w) ∧
    (∀ w, l.words.find? (!isScoredWord ·) = some w →
      ∃ e, ofData v = .error e ∧ Blames w e ∧ e.message? = some (rejection w)) ∧
    ∀ c, ofData v = .ok c →
      (∀ d x, Data.Denotes d x → ∀ k,
        List.Forall₂ Data.Denotes (l.names d k) (c.names x k)) ∧
      List.Forall₂ Data.Denotes (ds ++ l.filledDatasets.filter (!ds.contains ·)) c.datasets := by
  obtain ⟨hok, herror⟩ := h.ofData_outcome
  have hnone : ∀ c, ofData v = .ok c → l.words.find? (!isScoredWord ·) = none := by
    intro c hc
    refine Option.eq_none_iff_forall_ne_some.mpr fun w hw => ?_
    obtain ⟨e, he, -⟩ := herror w hw
    rw [he] at hc
    contradiction
  refine ⟨⟨?accepted, ?accepts⟩, ?rejects, ?catalog⟩
  case accepted =>
    rintro ⟨c, hc⟩
    exact find?_words_eq_none_iff.mp (hnone c hc)
  case accepts =>
    intro hwords
    obtain ⟨its, ys, hread, -⟩ := hok (find?_words_eq_none_iff.mpr hwords)
    exact ⟨_, hread⟩
  case rejects =>
    intro w hw
    obtain ⟨e, he, hblames⟩ := herror w hw
    exact ⟨e, he, hblames, hblames.message⟩
  case catalog =>
    intro c hc
    obtain ⟨its, ys, hread, hholds, hys⟩ := hok (hnone c hc)
    obtain rfl : ofBuckets its ys = c := Except.ok.inj (hread.symm.trans hc)
    refine ⟨fun d x hx k => denotes_names_of_holdsCell h.proper hholds hx k, ?_⟩
    rw [← foldl_addDataset_cells h.proper.datasets]
    refine denotes_foldl_addDataset ?_ hys
    rw [List.forall₂_map_left_iff, List.forall₂_map_right_iff]
    exact hholds.imp fun c it hc => hc.dataset

theorem describes_record {fields : List (String × Data)} (hl : l.IsProper)
    (hds : Data.ListsTexts ds ((get? fields "datasets").getD .null))
    (hvariables : Data.ListsEntries IsDatasetEntry l ((get? fields "variables").getD .null)) :
    Describes (record fields) ds l := by
  have hfield : ∀ name, field? (fields.map fun p => (text p.1, p.2)) name = get? fields name :=
    fun name => OrderedMap.get?_mapKeys fun k _ =>
      (Data.denotes_text k).beq_eq (Data.denotes_text name)
  refine ⟨hl, _, Data.unnamed_record fields, ?_, ?_⟩
  · rw [hfield]
    exact hds
  · rw [hfield]
    exact hvariables

/-- Words with names that are written out, or null. -/
theorem isDatasetEntry_record {p : String × List (String × List String)}
    {fields : List (String × Data)}
    (h : List.Forall₂ (fun q f => q.1 = f.1 ∧ Data.ListsTexts q.2 f.2) p.2 fields) :
    IsDatasetEntry p (text p.1, record fields) := by
  refine ⟨Data.denotes_text _, _, Data.unnamed_record fields, ?_⟩
  refine List.forall₂_map_right_iff.mpr (h.imp fun q f hqf => ⟨?_, hqf.2⟩)
  rw [hqf.1]
  exact Data.denotes_text _

/-- A document with null for the datasets, null for names and a dataset without words. -/
def patchyDocument : Data :=
  record [("datasets", .null),
    ("variables", record [("survey", record [("numeric", texts ["age"]), ("date", .null)]),
      ("home", record []), ("visits", record [("string", texts ["who"])])])]

/-- What the document lists. -/
def patchyListing : Listing :=
  [("survey", [("numeric", ["age"]), ("date", [])]), ("home", []),
    ("visits", [("string", ["who"])])]

/-- A document with a word for a kind that is not scored before one for no kind. -/
def oddDocument : Data :=
  record [("variables", record [("survey", record
    [("date", .null), ("geopoint", texts ["at"]), ("text", .null)])])]

/-- What the document lists. -/
def oddListing : Listing := [("survey", [("date", []), ("geopoint", ["at"]), ("text", [])])]

theorem describes_patchyDocument : Describes patchyDocument [] patchyListing := by
  have hage := Data.listsTexts_texts ["age"]
  have hwho := Data.listsTexts_texts ["who"]
  have hnull : Data.ListsTexts [] .null := .null (by simp [Data.unnamed])
  refine describes_record ⟨by decide, by decide⟩ hnull (.map (Data.unnamed_record _) ?_)
  refine .cons (isDatasetEntry_record ?_) (.cons (isDatasetEntry_record .nil)
    (.cons (isDatasetEntry_record ?_) .nil))
  · exact .cons ⟨rfl, hage⟩ (.cons ⟨rfl, hnull⟩ .nil)
  · exact .cons ⟨rfl, hwho⟩ .nil

theorem describes_oddDocument : Describes oddDocument [] oddListing := by
  have hat := Data.listsTexts_texts ["at"]
  have hnull : Data.ListsTexts [] .null := .null (by simp [Data.unnamed])
  refine describes_record ⟨by decide, by decide⟩ hnull (.map (Data.unnamed_record _) ?_)
  refine .cons (isDatasetEntry_record ?_) .nil
  exact .cons ⟨rfl, hnull⟩ (.cons ⟨rfl, hat⟩ (.cons ⟨rfl, hnull⟩ .nil))

theorem ofData_reads_patchy :
    Describes patchyDocument [] patchyListing ∧ Describes oddDocument [] oddListing ∧
    (∃ c, ofData patchyDocument = .ok c ∧
      List.Forall₂ Data.Denotes ["age"] (c.names (text "survey") .numeric) ∧
      List.Forall₂ Data.Denotes [] (c.names (text "survey") .date) ∧
      List.Forall₂ Data.Denotes ["survey", "visits"] c.datasets) ∧
    ∃ e, ofData oddDocument = .error e ∧ Blames "geopoint" e ∧
      e.message? = some "geopoint is not a catalog question type" := by
  obtain ⟨hread, -, hcatalog⟩ := ofData_reads describes_patchyDocument
  obtain ⟨-, hodd, -⟩ := ofData_reads describes_oddDocument
  obtain ⟨c, hc⟩ := hread.mpr (by decide)
  obtain ⟨hnames, hdatasets⟩ := hcatalog c hc
  refine ⟨describes_patchyDocument, describes_oddDocument, ⟨c, hc, ?_, ?_, hdatasets⟩,
    hodd "geopoint" (by decide)⟩
  · exact hnames "survey" _ (Data.denotes_text _) .numeric
  · exact hnames "survey" _ (Data.denotes_text _) .date

end Documents

end Catalog

end SurveyChecks
