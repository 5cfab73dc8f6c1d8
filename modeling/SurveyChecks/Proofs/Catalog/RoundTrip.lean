import Mathlib.Data.List.Forall2
import SurveyChecks.Catalog.Document
import SurveyChecks.Proofs.Catalog
import SurveyChecks.Proofs.Data
import SurveyChecks.Proofs.Json.Writer
import SurveyChecks.Proofs.Yaml.Outline

/-!
# Catalogs written and read back

A catalog of texts that is written as data, as JSON or as YAML and read back has the same datasets
in the same order and the same names; and two catalogs are the same just when the data they are
written as are.
-/

namespace SurveyChecks

open OrderedMap (get? keys)
open Data (text texts record)

namespace QuestionKind

theorem word_injective {k k' : QuestionKind} (h : k.word = k'.word) : k = k' := by
  have heq := congrArg ofWord? h
  rwa [ofWord?_word, ofWord?_word, Option.some.injEq] at heq

theorem nodup_words : (scored.map word).Nodup := by decide

/-- The scored kinds in ascending order of their words. -/
def scoredByWord : List QuestionKind :=
  [.date, .datetime, .numeric, .selectMultiple, .selectOne, .string]

end QuestionKind

open QuestionKind (scored scoredByWord)

namespace Catalog

variable {c : Catalog String} {d : String} {v : Data}

/-! ## The data of a catalog -/

/-- The fields that hold the names of a dataset. -/
def kindFields (c : Catalog String) (d : String) : List (String × Data) :=
  scored.map fun k => (k.word, texts (c.names d k))

theorem kindsData_eq (c : Catalog String) (d : String) :
    kindsData text c d = record (kindFields c d) := rfl

/-- The fields that hold the datasets, each of them once. -/
def fields (c : Catalog String) : OrderedMap String Data :=
  OrderedMap.ofPairs (c.datasets.map fun d => (d, kindsData text c d))

theorem toData_eq (c : Catalog String) :
    c.toData = record [("datasets", texts c.datasets), ("variables", record c.fields)] := by
  have hfields : OrderedMap.ofPairs (c.datasets.map fun d => (text d, kindsData text c d)) =
      c.fields.map fun p => (text p.1, p.2) := by
    have hkeys : OrderedMap.mapKeys text c.fields = OrderedMap.ofPairs
        ((c.datasets.map fun d => (d, kindsData text c d)).map fun p => (text p.1, p.2)) :=
      OrderedMap.mapKeys_ofPairs fun p _ q _ =>
        (Data.denotes_text p.1).beq_eq (Data.denotes_text q.1)
    rw [List.map_map] at hkeys
    exact hkeys.symm
  rw [toData, toDataBy, hfields]
  rfl

theorem nodup_kindFields : ((kindFields c d).map (·.1)).Nodup := by
  rw [kindFields, List.map_map]
  exact QuestionKind.nodup_words

theorem nodup_fields : (c.fields.map (·.1)).Nodup := OrderedMap.nodup_keys_ofPairs _

theorem mem_fields_iff {p : String × Data} :
    p ∈ c.fields ↔ p.1 ∈ c.datasets ∧ p.2 = kindsData text c p.1 := by
  have hfield : ∀ p ∈ c.fields, p.1 ∈ c.datasets ∧ p.2 = kindsData text c p.1 := by
    intro p hp
    obtain ⟨d, hd, rfl⟩ := List.mem_map.mp (OrderedMap.mem_of_mem_ofPairs hp)
    exact ⟨hd, rfl⟩
  refine ⟨hfield p, fun ⟨hd, hdata⟩ => ?_⟩
  have hkey : p.1 ∈ keys c.fields :=
    OrderedMap.mem_keys_ofPairs.mpr ⟨_, List.mem_map_of_mem hd, rfl⟩
  obtain ⟨p', hp', heq⟩ := List.mem_map.mp hkey
  obtain ⟨-, hdata'⟩ := hfield p' hp'
  have hpp : p' = p := Prod.ext heq (by rw [hdata', hdata, heq])
  exact hpp ▸ hp'

/-! ## Catalogs of values -/

/-- A catalog of values whose datasets and names under scored kinds are the texts of another, in the
same order. -/
structure Denotes (c : Catalog String) (c' : Catalog Data) : Prop where
  datasets : List.Forall₂ Data.Denotes c.datasets c'.datasets
  names : ∀ d x, Data.Denotes d x → ∀ k ∈ scored,
    List.Forall₂ Data.Denotes (c.names d k) (c'.names x k)

/-! ## Reading buckets -/

theorem kindOf_of_denotes {k : QuestionKind} {w : Data} (hk : k ∈ scored)
    (h : Data.Denotes k.word w) : kindOf w = .ok k := by
  have hscored : k.isScored = true := by simpa [QuestionKind.isScored] using hk
  unfold kindOf
  rw [h]
  simp only [QuestionKind.ofWord?_word, hscored, if_true]

theorem bucketOf_eq_ok {k : QuestionKind} {x w : Data} {ns : List Data} (hk : k ∈ scored)
    (hw : Data.Denotes k.word w) (hv : v.unnamed = .list ns) :
    bucketOf x (w, v) = .ok ((x, k), ns) := by
  rw [bucketOf, kindOf_of_denotes hk hw, Data.givenElements_of_unnamed hv]
  rfl

/-- An item of a dataset that holds the names of its kind, which is scored. -/
structure Holds (c : Catalog String) (d : String) (it : Item) : Prop where
  dataset : Data.Denotes d it.1.1
  scored : it.1.2 ∈ QuestionKind.scored
  names : List.Forall₂ Data.Denotes (c.names d it.1.2) it.2

/-- The names of a dataset are read as one item for each kind. -/
theorem exists_bucketsOf_eq_ok {x : Data} (hx : Data.Denotes d x)
    (hv : (kindsData text c d == v) = true) :
    ∃ its, bucketsOf (x, v) = .ok its ∧ (∀ it ∈ its, Holds c d it) ∧
      ∀ k ∈ scored, ∃ it ∈ its, it.1.2 = k := by
  obtain ⟨m, hm, hlength, hfields⟩ := Data.record_beq_iff.mp hv
  have hentry : ∀ e ∈ m, ∃ it, bucketOf x e = .ok it ∧
      (Holds c d it ∧ Data.Denotes it.1.2.word e.1) := by
    intro e he
    obtain ⟨p, hp, hkey, hvalue⟩ := Data.exists_field_of_mem nodup_kindFields hlength hfields e he
    obtain ⟨k, hk, rfl⟩ := List.mem_map.mp hp
    obtain ⟨ns, hns, hnames⟩ := Data.texts_beq_iff.mp hvalue
    exact ⟨((x, k), ns), bucketOf_eq_ok hk hkey hns, ⟨hx, hk, hnames⟩, hkey⟩
  obtain ⟨its, hits, hleft, hright⟩ := Data.exists_mapM_eq_ok hentry
  refine ⟨its, ?_, ?_, ?_⟩
  · rw [bucketsOf, Data.entries_of_unnamed hm]
    exact hits
  · intro it hit
    obtain ⟨e, -, hholds, -⟩ := hright it hit
    exact hholds
  · -- the field of the kind is one of the entries, and no other kind has its word
    intro k hk
    obtain ⟨w, hw, -⟩ := hfields _ (List.mem_map_of_mem hk)
    obtain ⟨e, he, hkey, -⟩ := Data.exists_mem_of_get?_text hw
    obtain ⟨it, hit, -, hkey'⟩ := hleft e he
    exact ⟨it, hit, QuestionKind.word_injective (hkey'.unique hkey)⟩

/-! ## Reading catalogs -/

theorem ofData_eq_ok {m es : List (Data × Data)} {n ds : Data} {buckets : List (List Item)}
    {ys : List Data} (hm : v.unnamed = .map m)
    (hn : field? m "variables" = some n) (hes : n.unnamed = .map es)
    (hds : field? m "datasets" = some ds) (hys : ds.unnamed = .list ys)
    (hbuckets : es.mapM bucketsOf = .ok buckets) :
    ofData v = .ok (ofBuckets (OrderedMap.ofPairs buckets.flatten) ys) := by
  unfold ofData
  simp only [Data.entries_of_unnamed hm, Except.mapError, bind, Except.bind, hn, hds,
    Option.getD_some, Data.isTruthy_of_unnamed hes, Data.entries_of_unnamed hes,
    Data.givenElements_of_unnamed hys]
  -- without entries the field counts as not given
  cases es with
  | nil =>
    obtain rfl : [] = buckets := Except.ok.inj hbuckets
    rfl
  | cons e es =>
    simp only [List.isEmpty_cons, Bool.not_false, if_true, hbuckets]
    rfl

/-- What is the same as the data of a catalog is read as a list of its items and its datasets. -/
theorem exists_ofData_eq_ok (hv : (c.toData == v) = true) :
    ∃ its ds, ofData v = .ok (ofBuckets (OrderedMap.ofPairs its) ds) ∧
      List.Forall₂ Data.Denotes c.datasets ds ∧
      (∀ it ∈ its, ∃ d ∈ c.datasets, Holds c d it) ∧
      ∀ d ∈ c.datasets, ∀ k ∈ scored, ∃ it ∈ its, Holds c d it ∧ it.1.2 = k := by
  rw [toData_eq] at hv
  obtain ⟨m, hm, -, hparts⟩ := Data.record_beq_iff.mp hv
  obtain ⟨⟨ds, hds, hdatasets⟩, ⟨n, hn, hvariables⟩, -⟩ := by
    simpa only [List.forall_mem_cons] using hparts
  obtain ⟨ys, hys, hdenotes⟩ := Data.texts_beq_iff.mp hdatasets
  obtain ⟨es, hes, hlength, hfields⟩ := Data.record_beq_iff.mp hvariables
  have hentry : ∀ e ∈ es, ∃ its, bucketsOf e = .ok its ∧ ∃ d ∈ c.datasets,
      Data.Denotes d e.1 ∧ (∀ it ∈ its, Holds c d it) ∧ ∀ k ∈ scored, ∃ it ∈ its, it.1.2 = k := by
    intro e he
    obtain ⟨p, hp, hkey, hvalue⟩ := Data.exists_field_of_mem nodup_fields hlength hfields e he
    obtain ⟨hd, hdata⟩ := mem_fields_iff.mp hp
    rw [hdata] at hvalue
    obtain ⟨its, hits, hholds, hall⟩ := exists_bucketsOf_eq_ok hkey hvalue
    exact ⟨its, hits, p.1, hd, hkey, hholds, hall⟩
  obtain ⟨buckets, hbuckets, hleft, hright⟩ := Data.exists_mapM_eq_ok hentry
  refine ⟨buckets.flatten, ys, ?_, hdenotes, ?_, ?_⟩
  · exact ofData_eq_ok hm hn hes hds hys hbuckets
  · intro it hit
    obtain ⟨its, hits, hit⟩ := List.mem_flatten.mp hit
    obtain ⟨e, -, d, hd, -, hholds, -⟩ := hright its hits
    exact ⟨d, hd, hholds it hit⟩
  · intro d hd k hk
    have hfield : (d, kindsData text c d) ∈ c.fields := mem_fields_iff.mpr ⟨hd, rfl⟩
    obtain ⟨w, hw, -⟩ := hfields _ hfield
    obtain ⟨e, he, hkey, -⟩ := Data.exists_mem_of_get?_text hw
    obtain ⟨its, hits, d', -, hkey', hholds, hall⟩ := hleft e he
    obtain ⟨it, hit, hkind⟩ := hall k hk
    have heq : d' = d := hkey'.unique hkey
    exact ⟨it, List.mem_flatten.mpr ⟨its, hits, hit⟩, heq ▸ hholds it hit, hkind⟩

/-! ## Catalogs read back -/

/-- Whether names stand only under the datasets listed. -/
def IsClosed (c : Catalog String) : Prop := ∀ d ∉ c.datasets, ∀ k, c.names d k = []

theorem mem_foldl_addDataset {ds names : List String} :
    d ∈ ds.foldl addDataset names ↔ d ∈ names ∨ d ∈ ds := by
  induction ds generalizing names with
  | nil => simp
  | cons d' ds ih =>
    have hadd : d ∈ addDataset names d' ↔ d ∈ names ∨ d = d' := by
      unfold addDataset
      split
      · rename_i h
        have hmem : d' ∈ names := by simpa using h
        exact ⟨Or.inl, fun h => h.elim id fun heq => heq ▸ hmem⟩
      · simp
    rw [List.foldl_cons, ih, hadd, List.mem_cons, or_assoc]

theorem isClosed_ofBuckets (buckets : OrderedMap Key (List String)) (datasets : List String) :
    IsClosed (ofBuckets buckets datasets) := by
  intro d hd k
  have hnone : get? buckets (d, k) = none := by
    refine Option.eq_none_iff_forall_ne_some.mpr fun ns hns => hd ?_
    have hmem := OrderedMap.mem_of_get?_eq_some hns
    exact mem_foldl_addDataset.mpr (Or.inr (List.mem_map_of_mem (f := fun b => b.1.1) hmem))
  show (get? buckets (d, k)).getD [] = []
  rw [hnone]
  rfl

section Restored

variable {its : List Item} {ds : List Data} {x y : Data}

/-- The key of texts that a key stands for. -/
def keyOf (k : Data × QuestionKind) : Key := (k.1.text?.getD "", k.2)

theorem keyOf_of_denotes (h : Data.Denotes d x) (k : QuestionKind) : keyOf (x, k) = (d, k) := by
  rw [keyOf, Data.text?_eq_some_iff.mpr h]
  rfl

theorem keyOf_beq {e : String} {a b : Data × QuestionKind} (ha : Data.Denotes d a.1)
    (hb : Data.Denotes e b.1) : (keyOf a == keyOf b) = (a == b) := by
  obtain ⟨x, k⟩ := a
  obtain ⟨y, l⟩ := b
  rw [keyOf_of_denotes ha, keyOf_of_denotes hb]
  show (d == e && k == l) = (x == y && k == l)
  rw [Data.Denotes.beq_eq ha hb]

/-- Under keys that are texts, items are found as under the texts themselves. -/
theorem get?_ofPairs_items (hits : ∀ it ∈ its, ∃ d, Data.Denotes d it.1.1)
    (hx : Data.Denotes d x) (k : QuestionKind) :
    get? (OrderedMap.ofPairs its) (x, k) =
      get? (OrderedMap.ofPairs (its.map fun it => (keyOf it.1, it.2))) (d, k) := by
  rw [← OrderedMap.mapKeys_ofPairs fun p hp q hq => ?_, OrderedMap.get?_mapKeys fun a ha => ?_]
  · obtain ⟨it, hit, rfl⟩ := OrderedMap.exists_of_mem_keys_ofPairs ha
    obtain ⟨e, he⟩ := hits it hit
    rw [← keyOf_of_denotes hx k]
    exact keyOf_beq he hx
  · obtain ⟨e, he⟩ := hits p hp
    obtain ⟨e', he'⟩ := hits q hq
    exact keyOf_beq he he'

/-- The datasets of the items are listed already. -/
theorem contains_of_mem_ofPairs_items (hds : List.Forall₂ Data.Denotes c.datasets ds)
    (hits : ∀ it ∈ its, ∃ d ∈ c.datasets, Holds c d it) :
    ∀ x ∈ (OrderedMap.ofPairs its).map (·.1.1), ds.contains x = true := by
  intro x hx
  obtain ⟨b, hb, rfl⟩ := List.mem_map.mp hx
  obtain ⟨it, hit, heq⟩ := OrderedMap.exists_of_mem_keys_ofPairs (List.mem_map_of_mem hb)
  obtain ⟨d, hd, hholds⟩ := hits it hit
  obtain ⟨y, hy, hdenotes⟩ := Data.exists_denotes_of_mem hds hd
  rw [← heq]
  exact List.contains_iff_exists_mem_beq.mpr
    ⟨y, hy, (Data.Denotes.beq_eq hholds.dataset hdenotes).trans (beq_self_eq_true d)⟩

/-- A catalog of the items and the datasets of another stands for it. -/
theorem denotes_ofBuckets (hc : IsClosed c) (hds : List.Forall₂ Data.Denotes c.datasets ds)
    (hits : ∀ it ∈ its, ∃ d ∈ c.datasets, Holds c d it)
    (hall : ∀ d ∈ c.datasets, ∀ k ∈ scored, ∃ it ∈ its, Holds c d it ∧ it.1.2 = k) :
    Denotes c (ofBuckets (OrderedMap.ofPairs its) ds) := by
  refine ⟨?_, fun d x hx k hk => ?_⟩
  · show List.Forall₂ Data.Denotes c.datasets
      (((OrderedMap.ofPairs its).map (·.1.1)).foldl addDataset ds)
    rw [foldl_addDataset (contains_of_mem_ofPairs_items hds hits)]
    exact hds
  · show List.Forall₂ Data.Denotes (c.names d k) ((get? (OrderedMap.ofPairs its) (x, k)).getD [])
    have hdenotes : ∀ it ∈ its, ∃ d, Data.Denotes d it.1.1 := fun it hit =>
      let ⟨e, _, hholds⟩ := hits it hit
      ⟨e, hholds.dataset⟩
    rw [get?_ofPairs_items hdenotes hx]
    cases hget : get? (OrderedMap.ofPairs (its.map fun it => (keyOf it.1, it.2))) (d, k) with
    | none =>
      -- every dataset has an item of each kind, so this one is not listed
      have hd : d ∉ c.datasets := by
        intro hd
        obtain ⟨it, hit, hholds, rfl⟩ := hall d hd k hk
        have hkey : (d, it.1.2) ∈ keys (OrderedMap.ofPairs (its.map fun it => (keyOf it.1, it.2))) :=
          OrderedMap.mem_keys_ofPairs.mpr
            ⟨_, List.mem_map_of_mem hit, keyOf_of_denotes hholds.dataset it.1.2⟩
        obtain ⟨ns, hns⟩ := OrderedMap.exists_get?_of_mem_keys hkey
        simp [hget] at hns
      rw [hc d hd k]
      exact List.Forall₂.nil
    | some ns =>
      obtain ⟨it, hit, heq⟩ := List.mem_map.mp (OrderedMap.mem_of_get?_ofPairs hget)
      obtain ⟨e, -, hholds⟩ := hits it hit
      obtain ⟨hkey, rfl⟩ := Prod.mk.inj heq
      obtain ⟨rfl, rfl⟩ := Prod.mk.inj ((keyOf_of_denotes hholds.dataset it.1.2).symm.trans hkey)
      exact hholds.names

end Restored

/-- What is the same as the data of a catalog is read as a catalog that stands for it. -/
theorem exists_denotes_of_same (hc : IsClosed c) (hv : (c.toData == v) = true) :
    ∃ c', ofData v = .ok c' ∧ Denotes c c' := by
  obtain ⟨its, ds, hread, hds, hits, hall⟩ := exists_ofData_eq_ok hv
  exact ⟨_, hread, denotes_ofBuckets hc hds hits hall⟩

/-! ## Catalogs that are the same -/

/-- Catalogs that one catalog of values stands for list the same items. -/
theorem Denotes.items_eq {c₁ c₂ : Catalog String} {c' : Catalog Data} (h₁ : Denotes c₁ c')
    (h₂ : Denotes c₂ c') : c₁.items = c₂.items := by
  have hnames : ∀ d, ∀ k ∈ scored, c₁.names d k = c₂.names d k := fun d k hk =>
    Data.denotes_unique (h₁.names d (text d) (Data.denotes_text d) k hk)
      (h₂.names d (text d) (Data.denotes_text d) k hk)
  rw [items, items, Data.denotes_unique h₁.datasets h₂.datasets]
  refine List.flatMap_congr fun d _ => List.map_congr_left fun k hk => ?_
  rw [hnames d k hk]

/-- The items of a catalog tell its datasets in order, and their names. -/
theorem eq_of_items_eq {names names' : String → QuestionKind → List String} {ds ds' : List String}
    (h : (ds.flatMap fun d => scored.map fun k => ((d, k), names d k)) =
      ds'.flatMap fun d => scored.map fun k => ((d, k), names' d k)) :
    ds = ds' ∧ ∀ d ∈ ds, ∀ k ∈ scored, names d k = names' d k := by
  -- each dataset takes as many items as there are scored kinds
  induction ds generalizing ds' with
  | nil =>
    cases ds' with
    | nil => simp
    | cons d' ds' => simp [scored] at h
  | cons d ds ih =>
    cases ds' with
    | nil => simp [scored] at h
    | cons d' ds' =>
      obtain ⟨hhead, htail⟩ := List.append_inj h (by simp)
      obtain ⟨rfl, hnames⟩ := ih htail
      have hitem : ∀ k ∈ scored, d = d' ∧ names d k = names' d' k := by
        intro k hk
        obtain ⟨hkey, hname⟩ := Prod.mk.inj (List.map_inj_left.mp hhead k hk)
        exact ⟨(Prod.mk.inj hkey).1, hname⟩
      obtain ⟨rfl, -⟩ := hitem .string (by decide)
      exact ⟨rfl, List.forall_mem_cons.mpr ⟨fun k hk => (hitem k hk).2, hnames⟩⟩

theorem toData_eq_of_items_eq {c₁ c₂ : Catalog String} (h : c₁.items = c₂.items) :
    c₁.toData = c₂.toData := by
  obtain ⟨hds, hnames⟩ := eq_of_items_eq h
  have hkinds : ∀ d ∈ c₁.datasets, kindsData text c₁ d = kindsData text c₂ d := by
    intro d hd
    have hfields : kindFields c₁ d = kindFields c₂ d :=
      List.map_congr_left fun k hk => by rw [hnames d hd k hk]
    rw [kindsData_eq, kindsData_eq, hfields]
  have hpairs : (c₁.datasets.map fun d => (d, kindsData text c₁ d)) =
      c₁.datasets.map fun d => (d, kindsData text c₂ d) :=
    List.map_congr_left fun d hd => by rw [hkinds d hd]
  rw [toData_eq, toData_eq, fields, fields, ← hds, hpairs]

theorem toData_beq_self (c : Catalog String) : (c.toData == c.toData) = true := by
  have hkinds : ∀ p ∈ c.fields, (p.2 == p.2) = true := by
    intro p hp
    rw [(mem_fields_iff.mp hp).2]
    refine Data.record_beq_self nodup_kindFields fun q hq => ?_
    obtain ⟨k, -, rfl⟩ := List.mem_map.mp hq
    exact Data.texts_beq_self _
  rw [toData_eq]
  refine Data.record_beq_self (by simp) ?_
  simp only [List.forall_mem_cons, List.not_mem_nil, false_imp_iff, implies_true, and_true]
  exact ⟨Data.texts_beq_self _, Data.record_beq_self nodup_fields hkinds⟩

/-- Catalogs are the same just when the data they are written as are. -/
theorem beq_eq_toData_beq {c₁ c₂ : Catalog String} (h₁ : IsClosed c₁) (h₂ : IsClosed c₂) :
    (c₁ == c₂) = (c₁.toData == c₂.toData) := by
  refine Bool.eq_iff_iff.mpr ⟨fun h => ?_, fun h => ?_⟩
  · have hitems : c₁.items = c₂.items := eq_of_beq h
    rw [toData_eq_of_items_eq hitems]
    exact toData_beq_self c₂
  · -- both catalogs stand for what is read from the second data
    obtain ⟨c', hread, hdenotes⟩ := exists_denotes_of_same h₁ h
    obtain ⟨c'', hread', hdenotes'⟩ := exists_denotes_of_same h₂ (toData_beq_self c₂)
    obtain rfl : c' = c'' := Except.ok.inj (hread.symm.trans hread')
    show (c₁.items == c₂.items) = true
    rw [hdenotes.items_eq hdenotes']
    exact beq_self_eq_true _

/-! ## Catalogs restored -/

/-- A catalog of values is a catalog of texts again: it is the same catalog, and shows the same
datasets, names and numeric datasets, in the same order. -/
structure Restores (c : Catalog String) (c' : Catalog Data) : Prop where
  same : (c' == c.map text) = true
  datasets : (c'.datasets == c.datasets.map text) = true
  names : ∀ d, ∀ k ∈ scored, (c'.names (text d) k == (c.names d k).map text) = true
  hasNumeric : ∀ d, c'.hasNumeric (text d) = c.hasNumeric d

theorem names_map {α β : Type} [BEq α] [BEq β] {f : α → β} (hf : ∀ a b, (f a == f b) = (a == b))
    (c : Catalog α) (d : α) (k : QuestionKind) : (c.map f).names (f d) k = (c.names d k).map f := by
  have hbuckets : (c.map f).buckets = OrderedMap.mapKeys (fun b => (f b.1, b.2))
      (OrderedMap.mapValues (List.map f) c.buckets) := by
    rw [OrderedMap.mapKeys, OrderedMap.mapValues, List.map_map]
    rfl
  have hkey : ∀ b ∈ keys (OrderedMap.mapValues (List.map f) c.buckets),
      ((f b.1, b.2) == (f d, k)) = (b == (d, k)) := by
    intro b _
    show (f b.1 == f d && b.2 == k) = (b.1 == d && b.2 == k)
    rw [hf]
  rw [names, hbuckets, OrderedMap.get?_mapKeys hkey, OrderedMap.get?_mapValues, names]
  cases get? c.buckets (d, k) <;> rfl

theorem Denotes.restores {c' : Catalog Data} (h : Denotes c c') : Restores c c' := by
  have hnames : ∀ d x, Data.Denotes d x → ∀ k ∈ scored,
      (c'.names x k == (c.names d k).map text) = true := fun d x hx k hk =>
    Data.beq_map_text (h.names d x hx k hk)
  refine ⟨?_, Data.beq_map_text h.datasets, fun d => hnames d (text d) (Data.denotes_text d),
    fun d => ?_⟩
  · have hdatasets : List.Forall₂ (fun x y => ∃ d, Data.Denotes d x ∧ y = text d) c'.datasets
        (c.datasets.map text) :=
      List.forall₂_map_right_iff.mpr (h.datasets.flip.imp fun x d hx => ⟨d, hx, rfl⟩)
    refine Data.list_beq_of_forall₂ (List.rel_flatMap hdatasets ?_)
    rintro x _ ⟨d, hx, rfl⟩
    refine List.forall₂_map_left_iff.mpr (List.forall₂_map_right_iff.mpr ?_)
    refine List.forall₂_same.mpr fun k hk => ?_
    rw [names_map fun a b => (Data.denotes_text a).beq_eq (Data.denotes_text b)]
    show ((x == text d && k == k) && c'.names x k == (c.names d k).map text) = true
    rw [(Data.beq_text_iff x).mpr hx, hnames d x hx k hk, beq_self_eq_true]
    rfl
  · have hlength := (h.names d (text d) (Data.denotes_text d) .numeric (by decide)).length_eq
    refine congrArg not (Bool.eq_iff_iff.mpr ?_)
    rw [List.isEmpty_iff_length_eq_zero, List.isEmpty_iff_length_eq_zero, hlength]

/-! ## Texts -/

/-- The names of a dataset as JSON. -/
def kindsText (c : Catalog String) (d : String) : String :=
  Json.recordText (scoredByWord.map fun k => (k.word, Json.textsText (c.names d k)))

theorem inOrder_kindFields (c : Catalog String) (d : String) : Json.inOrder (kindFields c d) =
    scoredByWord.map fun k => (k.word, texts (c.names d k)) := by
  have hperm : scored.Perm scoredByWord := by decide
  have hascending : scoredByWord.Pairwise fun k l => k.word < l.word := by decide
  exact Json.inOrder_eq (hperm.map _) (List.pairwise_map.mpr hascending)

theorem writeBy_kindsData (knot : Knot → Except DataFault String) (c : Catalog String)
    (d : String) : Json.writeBy knot (kindsData text c d) = .ok (kindsText c d) :=
  Json.writeBy_record_eq_ok (inOrder_kindFields c d) fun _ _ => Json.writeBy_texts _

/-- A catalog as JSON, with the datasets that have names in ascending order. -/
theorem toJson_eq (c : Catalog String) :
    c.toJson = .ok (Json.recordText [("datasets", Json.textsText c.datasets),
      ("variables", Json.recordText ((Json.inOrder c.fields).map fun p =>
        (p.1, kindsText c p.1)))]) := by
  have hkinds : ∀ knot, ∀ p ∈ Json.inOrder c.fields,
      Json.writeBy knot p.2 = .ok (kindsText c p.1) := by
    intro knot p hp
    rw [(mem_fields_iff.mp ((Json.inOrder_perm _).mem_iff.mp hp)).2]
    exact writeBy_kindsData knot c p.1
  have hvariables : ∀ knot, Json.writeBy knot (record c.fields) =
      .ok (Json.recordText ((Json.inOrder c.fields).map fun p => (p.1, kindsText c p.1))) :=
    fun knot => Json.writeBy_record_eq_ok (List.map_id'' (fun _ => rfl) _).symm (hkinds knot)
  have hnames : "datasets" < "variables" := by decide
  have hparts : Json.inOrder [("datasets", texts c.datasets), ("variables", record c.fields)] =
      [("datasets", texts c.datasets), ("variables", record c.fields)] :=
    Json.inOrder_eq (List.Perm.refl _) (List.pairwise_pair.mpr hnames)
  rw [toJson, toData_eq, Json.write, Json.writeBy_record, hparts]
  simp only [List.mapM_cons, List.mapM_nil, Json.writeField, Json.writeBy_texts, hvariables]
  rfl

theorem exists_toYaml (c : Catalog String) : ∃ t, c.toYaml = .ok t := by
  rw [toYaml, toData_eq]
  refine Yaml.exists_write fun knot => Yaml.Outline.succeeds_record (by decide) ?_
  simp only [List.forall_mem_cons, List.not_mem_nil, false_imp_iff, implies_true, and_true]
  refine ⟨Yaml.Outline.succeeds_texts _ (by decide), ?_⟩
  refine Yaml.Outline.succeeds_record (by decide) fun p hp => ?_
  rw [(mem_fields_iff.mp hp).2]
  refine Yaml.Outline.succeeds_record (by decide) fun q hq => ?_
  obtain ⟨k, -, rfl⟩ := List.mem_map.mp hq
  exact Yaml.Outline.succeeds_texts _ (by decide)

/-- Reading what is the same as the data of a catalog gives the catalog back. -/
theorem exists_restores_of_read {ε : Type} {r : Except ε Data} (e : ε → CatalogTextError)
    (hc : IsClosed c) (hread : r = .ok v) (hv : (c.toData == v) = true) :
    ∃ c', (do let d ← r.mapError e; (ofData d).mapError .content) = .ok c' ∧ Restores c c' := by
  obtain ⟨c', hc', hdenotes⟩ := exists_denotes_of_same hc hv
  refine ⟨c', ?_, hdenotes.restores⟩
  rw [hread]
  simp only [Except.mapError, bind, Except.bind, hc']

theorem exists_of_toOption_any {α ε : Type} {r : Except ε α} {p : α → Bool}
    (h : r.toOption.any p = true) : ∃ a, r = .ok a ∧ p a = true := by
  cases r with
  | error e => simp [Except.toOption] at h
  | ok a => exact ⟨a, rfl, h⟩

/-- A catalog can be written as data, as JSON and as YAML. It comes back from the data, and from each
of the texts when reading the text gives the data back, which may have their maps in another order.
Catalogs are the same just when their data are. -/
theorem restores_of_written (buckets : OrderedMap Key (List String)) (datasets : List String) :
    let c := ofBuckets buckets datasets
    (∃ c', ofData c.toData = .ok c' ∧ Restores c c') ∧
      (∃ t, c.toJson = .ok t ∧ ∀ v, Json.read t = .ok v → (c.toData == v) = true →
        ∃ c', ofJson t = .ok c' ∧ Restores c c') ∧
      (∃ t, c.toYaml = .ok t ∧ ∀ first v, Yaml.read t first = .ok v → (c.toData == v) = true →
        ∃ c', ofYaml t first = .ok c' ∧ Restores c c') ∧
      ∀ (buckets₂ : OrderedMap Key (List String)) (datasets₂ : List String),
        (c == ofBuckets buckets₂ datasets₂) =
          (c.toData == (ofBuckets buckets₂ datasets₂).toData) := by
  intro c
  have hc : IsClosed c := isClosed_ofBuckets buckets datasets
  refine ⟨?_, ?_, ?_, fun buckets₂ datasets₂ => ?_⟩
  · obtain ⟨c', hc', hdenotes⟩ := exists_denotes_of_same hc (toData_beq_self c)
    exact ⟨c', hc', hdenotes.restores⟩
  · exact ⟨_, toJson_eq c, fun v hread hv => exists_restores_of_read .json hc hread hv⟩
  · obtain ⟨t, ht⟩ := exists_toYaml c
    exact ⟨t, ht, fun first v hread hv => exists_restores_of_read .yaml hc hread hv⟩
  · exact beq_eq_toData_beq hc (isClosed_ofBuckets buckets₂ datasets₂)

/-- A catalog in which a dataset is listed twice and has a bucket of a kind that is not scored comes
back from its texts. -/
theorem restores_of_written_home :
    let c := ofBuckets [(("home", .geopoint), ["at"]), (("home", .numeric), ["age"])]
      ["home", "home"]
    (∃ t c', c.toJson = .ok t ∧ ofJson t = .ok c' ∧ Restores c c') ∧
      ∃ t c', c.toYaml = .ok t ∧ ofYaml t 0 = .ok c' ∧ Restores c c' := by
  intro c
  obtain ⟨-, ⟨t, ht, hjson⟩, ⟨u, hu, hyaml⟩, -⟩ := restores_of_written
    [(("home", .geopoint), ["at"]), (("home", .numeric), ["age"])] ["home", "home"]
  constructor
  · have horder : Json.inOrder c.fields = c.fields :=
      Json.inOrder_eq (List.Perm.refl _) (by decide +kernel)
    have hwritten := toJson_eq c
    rw [horder] at hwritten
    have hback : ∃ v, Json.read t = .ok v ∧ (c.toData == v) = true := by
      rw [Except.ok.inj (ht.symm.trans hwritten)]
      exact exists_of_toOption_any (by decide +kernel)
    obtain ⟨v, hread, hv⟩ := hback
    obtain ⟨c', hc', hrestores⟩ := hjson v hread hv
    exact ⟨t, c', ht, hc', hrestores⟩
  · have hback : (c.toYaml.toOption.any fun t =>
        (Yaml.read t 0).toOption.any (c.toData == ·)) = true := by
      decide +kernel
    obtain ⟨t', ht', hany⟩ := exists_of_toOption_any hback
    rw [Except.ok.inj (ht'.symm.trans hu)] at hany
    obtain ⟨v, hread, hv⟩ := exists_of_toOption_any hany
    obtain ⟨c', hc', hrestores⟩ := hyaml 0 v hread hv
    exact ⟨u, c', hu, hc', hrestores⟩

end Catalog

end SurveyChecks
