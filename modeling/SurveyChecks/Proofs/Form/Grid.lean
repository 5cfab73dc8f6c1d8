import Mathlib.Logic.Equiv.Defs
import Mathlib.Logic.Relation
import SurveyChecks.Proofs.Form.Labels

/-!
# What loaders see of a grid

A sheet made of a grid of cells depends on the texts at the places of the grid, where a row that has
ended counts as going on with empty cells, and not on rows of blank cells below the header. So empty
cells at the end of rows, the kind of an empty cell and blank rows make no difference to the
questions and choices that are loaded, nor to the error. Choices are looked up by column only, so
with distinct headers and a text in every cell the columns of their grid may stand in any sequence.
-/

namespace SurveyChecks

open OrderedMap (get? keys ofPairs mapValues)
open Text (strip)

/-! ## Rows with the same texts -/

namespace Row

variable {row row' : Row}

/-- Two rows have the same text in every column, both or neither have content, and in both or
neither it can be looked for. -/
structure SameTexts (row row' : Row) : Prop where
  cellText? : ∀ c, (row.cell c).cellText? = (row'.cell c).cellText?
  hasContent : row.hasContent = row'.hasContent
  isSearchable : row.isSearchable = row'.isSearchable

theorem SameTexts.text (h : SameTexts row row') (c : String) : row.text c = row'.text c := by
  unfold Row.text Data.cellText
  rw [h.cellText?]

theorem SameTexts.hasTexts (h : SameTexts row row') (columns : List String) :
    row.hasTexts columns = row'.hasTexts columns := by
  unfold Row.hasTexts
  simp only [← Data.isSome_cellText?, h.cellText?]

/-- The texts of the cells in order, by column. -/
def texts (row : Row) : OrderedMap String (Option String) := mapValues Data.cellText? row

/-- Whether the text of a cell shows that it is filled. -/
def showsFilled (t : Option String) : Bool := t.elim true fun t => strip t != ""

theorem cellText?_cell (row : Row) (c : String) :
    (row.cell c).cellText? = (get? row.texts c).getD (some "") := by
  unfold Row.cell texts
  rw [OrderedMap.get?_mapValues]
  cases get? row c <;> rfl

theorem hasContent_eq_texts (row : Row) :
    row.hasContent = row.texts.any fun (_, t) => showsFilled t := by
  unfold Row.hasContent texts mapValues
  rw [List.any_map]
  exact congrArg row.any (funext fun e => isFilled_eq e.2)

theorem isSearchable_eq_texts (row : Row) :
    row.isSearchable = (row.texts.find? fun (_, t) => showsFilled t).all fun (_, t) => t.isSome := by
  have hfilled : (fun e : String × Data => isFilled e.2) =
      (fun e : String × Option String => showsFilled e.2) ∘ fun e => (e.1, e.2.cellText?) :=
    funext fun e => isFilled_eq e.2
  unfold Row.isSearchable texts mapValues
  rw [List.find?_map, ← hfilled]
  cases List.find? (fun e : String × Data => isFilled e.2) row with
  | none => rfl
  | some e => exact Data.isSome_cellText?.symm

/-- Rows with the same texts in the same sequence. -/
theorem SameTexts.of_texts (h : row.texts = row'.texts) : SameTexts row row' where
  cellText? c := by rw [cellText?_cell, cellText?_cell, h]
  hasContent := by rw [hasContent_eq_texts, hasContent_eq_texts, h]
  isSearchable := by rw [isSearchable_eq_texts, isSearchable_eq_texts, h]

theorem hasContent_iff (h : (keys row).Nodup) : row.hasContent ↔ ∃ c, isFilled (row.cell c) := by
  unfold hasContent Row.cell
  rw [List.any_eq_true]
  constructor
  · rintro ⟨⟨c, cell⟩, hmem, hcell⟩
    refine ⟨c, ?_⟩
    rwa [OrderedMap.get?_eq_some_of_mem h hmem, Option.getD_some]
  · rintro ⟨c, hc⟩
    cases hget : get? row c with
    | none =>
      rw [hget] at hc
      exact absurd hc (by decide)
    | some cell =>
      rw [hget, Option.getD_some] at hc
      exact ⟨(c, cell), OrderedMap.mem_of_get?_eq_some hget, hc⟩

/-- Rows with the same texts in any sequence, of which none is missing. -/
theorem SameTexts.of_isTextual (hrow : row.isTextual) (hrow' : row'.isTextual)
    (h : (keys row).Nodup) (h' : (keys row').Nodup)
    (htext : ∀ c, (row.cell c).cellText? = (row'.cell c).cellText?) : SameTexts row row' := by
  refine ⟨htext, Bool.eq_iff_iff.mpr ?_,
    (isSearchable_of_isTextual hrow).trans (isSearchable_of_isTextual hrow').symm⟩
  rw [hasContent_iff h, hasContent_iff h']
  simp only [isFilled_eq, htext]

theorem forall₂_filter_hasContent {rows rows' : List Row}
    (h : List.Forall₂ SameTexts rows rows') :
    List.Forall₂ SameTexts (rows.filter hasContent) (rows'.filter hasContent) := by
  refine List.rel_filter (fun row row' hrow => ?_) h
  simp only [hrow.hasContent]

end Row

open Row (SameTexts)

/-! ## What is loaded from rows with the same texts -/

theorem map_zipIdx_eq_of_forall₂ {α β : Type} {related : α → α → Prop} {f : α × Nat → β}
    {xs ys : List α} (h : List.Forall₂ related xs ys)
    (hf : ∀ x y n, related x y → f (x, n) = f (y, n)) (n : Nat) :
    (xs.zipIdx n).map f = (ys.zipIdx n).map f := by
  induction h generalizing n with
  | nil => rfl
  | cons hxy _ ih =>
    rw [List.zipIdx_cons, List.zipIdx_cons, List.map_cons, List.map_cons, hf _ _ n hxy, ih]

theorem Question.load_eq_of_alike {s s' : Sheet} (h : s.Alike SameTexts s') :
    Question.load s = Question.load s' := by
  have hread : ∀ row row', SameTexts row row' →
      Question.ofRow? s'.columns row = Question.ofRow? s'.columns row' := fun row row' hrow =>
    Question.ofRow?_eq_of_text (funext hrow.text)
  have hlegible : ∀ row row', SameTexts row row' →
      Question.isLegible s'.columns row = Question.isLegible s'.columns row' := by
    intro row row' hrow
    unfold Question.isLegible
    rw [hrow.hasTexts, hrow.hasTexts, hread row row' hrow]
  unfold Question.load Sheet.require
  rw [h.missing_eq, h.name, h.columns, all_eq_of_forall₂ h.rows hlegible,
    filterMap_eq_of_forall₂ h.rows hread]

namespace Choice

theorem ofRow_eq_of_sameTexts {row row' : Row} (h : SameTexts row row') (column : String)
    (number : Nat) : ofRow column row number = ofRow column row' number := by
  have htext : row.text = row'.text := funext h.text
  unfold ofRow rowName
  simp only [htext, h.hasTexts, h.isSearchable]

/-- Choices depend on which columns there are, not on their sequence. -/
theorem load_eq_of_sameTexts {s s' : Sheet} (hname : s.name = s'.name)
    (hcolumns : s.columns.Perm s'.columns) (hrows : List.Forall₂ SameTexts s.rows s'.rows) :
    load s = load s' := by
  have hcontains : ∀ c, s.columns.contains c = s'.columns.contains c := fun c =>
    hcolumns.contains_eq
  have hlist : listColumn s.columns = listColumn s'.columns := by
    unfold listColumn
    rw [hcontains]
  have hmissing : ∀ required, s.missing required = s'.missing required := by
    intro required
    unfold Sheet.missing
    simp only [hcontains]
  have hreadings : readings s = readings s' := by
    unfold readings
    rw [hlist]
    exact map_zipIdx_eq_of_forall₂ (Row.forall₂_filter_hasContent hrows)
      (fun row row' number hrow => ofRow_eq_of_sameTexts hrow _ _) 1
  unfold load Sheet.require requiredColumns
  rw [hlist, hmissing, hname, hreadings]

end Choice

namespace Sheet

/-! ## The places of a grid -/

/-- The cell at a place of a row, an empty one where the row has ended. -/
def cellAt (cells : List Data) (i : Nat) : Data := cells[i]?.getD .null

/-- The text at a place of a row, if it has one. -/
def textAt (cells : List Data) (i : Nat) : Option String := (cellAt cells i).cellText?

/-- The columns of a header, each with its place. -/
def places (header : List String) : List (String × Nat) := header.zipIdx.filter fun p => p.1 != ""

section Places

variable {header : List String} {cells cells' top top' : List Data} {σ : Equiv.Perm Nat}

/-- What holds of all cells of a row and of the empty cell holds of the cell at any place. -/
theorem forall_cellAt {p : Data → Prop} (hnull : p .null) (h : ∀ c ∈ cells, p c) (i : Nat) :
    p (cellAt cells i) := by
  unfold cellAt
  cases hi : cells[i]? with
  | none => exact hnull
  | some c => exact h c (List.mem_of_getElem? hi)

/-- All cells of a row have texts just when there is a text at every place. -/
theorem forall_hasText_iff : (∀ c ∈ cells, c.hasText) ↔ ∀ i, (textAt cells i).isSome := by
  constructor
  · intro h i
    unfold textAt
    rw [Data.isSome_cellText?]
    exact forall_cellAt (p := fun c => c.hasText) rfl h i
  · intro h c hc
    obtain ⟨i, hi, rfl⟩ := List.getElem_of_mem hc
    have hcell : cellAt cells i = cells[i] := by
      rw [cellAt, List.getElem?_eq_getElem hi, Option.getD_some]
    rw [← hcell, ← Data.isSome_cellText?]
    exact h i

theorem pairUp_eq (header : List String) (cells : List Data) :
    pairUp header cells = header.zipIdx.map fun p => (p.1, cellAt cells p.2) := by
  induction header generalizing cells with
  | nil => rfl
  | cons h hs ih =>
    rw [List.zipIdx_cons', List.map_cons, List.map_map]
    cases cells with
    | nil =>
      rw [pairUp, ih]
      rfl
    | cons c cs =>
      rw [pairUp, ih]
      rfl

theorem rowUnder_eq (header : List String) (cells : List Data) :
    rowUnder header cells = ofPairs ((places header).map fun p => (p.1, cellAt cells p.2)) := by
  unfold rowUnder places
  rw [pairUp_eq, List.filter_map]
  rfl

theorem map_fst_places (header : List String) :
    (places header).map (·.1) = header.filter (· != "") := by
  unfold places
  conv_rhs => rw [← List.zipIdx_map_fst 0 header]
  rw [List.filter_map]
  rfl

theorem pairwise_places (header : List String) : (places header).Pairwise (·.2 < ·.2) := by
  have hsorted : header.zipIdx.Pairwise (·.2 < ·.2) := by
    refine List.pairwise_map.mp ?_
    rw [List.zipIdx_map_snd]
    exact List.pairwise_lt_range'
  exact hsorted.filter _

theorem mem_places_headerOf {p : String × Nat} :
    p ∈ places (headerOf top) ↔ p.1 = strip ((textAt top p.2).getD "") ∧ p.1 ≠ "" := by
  unfold places headerOf textAt cellAt
  rw [List.mem_filter, List.mem_zipIdx_iff_getElem?, List.getElem?_map]
  cases top[p.2]? with
  | some c =>
    rw [Option.map_some, Option.getD_some, Option.some.injEq, bne_iff_ne, eq_comm, Data.cellText]
  | none =>
    have hblank : strip ((Data.cellText? .null).getD "") = "" := rfl
    rw [Option.map_none, Option.getD_none, hblank]
    constructor
    · exact fun h => absurd h.1 (by simp)
    · exact fun h => absurd h.1 h.2

theorem nodup_keys_rowUnder (header : List String) (cells : List Data) :
    (keys (rowUnder header cells)).Nodup :=
  OrderedMap.nodup_keys_ofPairs _

/-- The texts of a row are those at the places of the columns. -/
theorem texts_rowUnder (header : List String) (cells : List Data) :
    (rowUnder header cells).texts =
      ofPairs ((places header).map fun p => (p.1, textAt cells p.2)) := by
  rw [Row.texts, rowUnder_eq, OrderedMap.mapValues_ofPairs, List.map_map]
  rfl

/-- What holds of all cells of a row and of the empty cell holds of the cells under any header. -/
theorem forall_rowUnder (header : List String) {p : Data → Prop} (hnull : p .null)
    (h : ∀ c ∈ cells, p c) : ∀ e ∈ rowUnder header cells, p e.2 := by
  intro e he
  rw [rowUnder_eq] at he
  obtain ⟨place, -, rfl⟩ := List.mem_map.mp (OrderedMap.mem_of_mem_ofPairs he)
  exact forall_cellAt hnull h place.2

theorem isTextual_rowUnder (header : List String) (h : ∀ c ∈ cells, c.hasText) :
    (rowUnder header cells).isTextual :=
  List.all_eq_true.mpr (forall_rowUnder header (p := fun c => c.hasText) rfl h)

/-! ## The same texts at other places -/

/-- The texts of the second row are those of the first one, moved: each place has the text of its
image. -/
def Moved (σ : Equiv.Perm Nat) (cells cells' : List Data) : Prop :=
  ∀ i, textAt cells' i = textAt cells (σ i)

theorem Moved.hasText (h : Moved σ cells cells') (hcells : ∀ c ∈ cells, c.hasText) :
    ∀ c ∈ cells', c.hasText := by
  refine forall_hasText_iff.mpr fun i => ?_
  rw [h]
  exact forall_hasText_iff.mp hcells (σ i)

theorem places_perm_of_moved (h : Moved σ top top') :
    ((places (headerOf top')).map fun p => (p.1, σ p.2)).Perm (places (headerOf top)) := by
  have hnodup : ∀ header, (places header).Nodup := fun header =>
    (pairwise_places header).imp fun hlt heq => absurd (congrArg Prod.snd heq) (ne_of_lt hlt)
  have hinj : Function.Injective fun p : String × Nat => (p.1, σ p.2) := by
    rintro ⟨c, i⟩ ⟨c', i'⟩ heq
    obtain ⟨hc, hi⟩ := Prod.mk.inj heq
    exact Prod.ext hc (σ.injective hi)
  refine (List.perm_ext_iff_of_nodup ((hnodup _).map hinj) (hnodup _)).mpr fun p => ?_
  constructor
  · intro hp
    obtain ⟨p', hp', rfl⟩ := List.mem_map.mp hp
    rw [mem_places_headerOf] at hp' ⊢
    rwa [← h]
  · intro hp
    rw [mem_places_headerOf] at hp
    refine List.mem_map.mpr ⟨(p.1, σ.symm p.2), mem_places_headerOf.mpr ?_, by simp⟩
    rwa [h, Equiv.apply_symm_apply]

/-- Under the moved header, the moved row has the same texts, when no column occurs twice and no text
is missing. -/
theorem sameTexts_of_moved (htop : Moved σ top top') (h : Moved σ cells cells')
    (hnodup : ((headerOf top).filter (· != "")).Nodup) (hcells : ∀ c ∈ cells, c.hasText) :
    SameTexts (rowUnder (headerOf top) cells) (rowUnder (headerOf top') cells') := by
  refine .of_isTextual (isTextual_rowUnder _ hcells) (isTextual_rowUnder _ (h.hasText hcells))
    (nodup_keys_rowUnder ..) (nodup_keys_rowUnder ..) fun c => ?_
  have hperm : ((places (headerOf top')).map fun p => (p.1, textAt cells' p.2)).Perm
      ((places (headerOf top)).map fun p => (p.1, textAt cells p.2)) := by
    have := (places_perm_of_moved htop).map fun p => (p.1, textAt cells p.2)
    rw [List.map_map] at this
    simpa only [Function.comp_def, h _] using this
  have hkeys : (((places (headerOf top)).map fun p => (p.1, textAt cells p.2)).map (·.1)).Nodup := by
    rw [List.map_map]
    exact (map_fst_places _).symm ▸ hnodup
  rw [Row.cellText?_cell, Row.cellText?_cell, texts_rowUnder, texts_rowUnder,
    OrderedMap.get?_ofPairs_of_perm hkeys hperm.symm]

theorem columns_perm_of_moved (h : Moved σ top top') :
    ((headerOf top).filter (· != "")).Perm ((headerOf top').filter (· != "")) := by
  have hperm := (places_perm_of_moved h).map (·.1)
  rw [List.map_map, map_fst_places] at hperm
  rw [← map_fst_places (headerOf top')]
  exact hperm.symm

/-- A header with the same texts has its columns at the same places. -/
theorem places_eq_of_textAt (h : ∀ i, textAt top i = textAt top' i) :
    places (headerOf top) = places (headerOf top') := by
  have hmoved : Moved (Equiv.refl Nat) top top' := fun i => (h i).symm
  have hperm : (places (headerOf top')).Perm (places (headerOf top)) := by
    simpa using places_perm_of_moved hmoved
  exact hperm.symm.eq_of_pairwise (fun p q _ _ hpq hqp => absurd hpq (lt_asymm hqp))
    (pairwise_places _) (pairwise_places _)

end Places

/-! ## Grids with the same texts -/

/-- Both grids give the same error, or they give sheets with the same texts. -/
inductive BothGive : Except FormError Sheet → Except FormError Sheet → Prop where
  /-- The same error. -/
  | error (e : FormError) : BothGive (.error e) (.error e)
  /-- Sheets with the same texts. -/
  | ok {s s' : Sheet} (h : s.Alike SameTexts s') : BothGive (.ok s) (.ok s')

section Grids

variable {name : String} {grid grid' : List (List Data)} {cells cells' : List Data}
  {x x' : Except FormError Sheet}

theorem BothGive.load_questions (h : BothGive x x') :
    x >>= Question.load = x' >>= Question.load := by
  cases h with
  | error e => rfl
  | ok h => exact Question.load_eq_of_alike h

theorem BothGive.load_choices (h : BothGive x x') : x >>= Choice.load = x' >>= Choice.load := by
  cases h with
  | error e => rfl
  | ok h => exact Choice.load_eq_of_sameTexts h.name (.of_eq h.columns) h.rows

/-- The columns that a grid has. -/
def columnsOf : List (List Data) → List String
  | [] => []
  | top :: _ => (headerOf top).filter (· != "")

/-- Two rows of cells have the same texts at all places. -/
def SamePlaces (cells cells' : List Data) : Prop := ∀ i, textAt cells i = textAt cells' i

theorem SamePlaces.sameTexts (header : List String) (h : SamePlaces cells cells') :
    SameTexts (rowUnder header cells) (rowUnder header cells') := by
  refine .of_texts ?_
  rw [texts_rowUnder, texts_rowUnder]
  simp only [h _]

/-- Headers with the same texts give rows with the same cells. -/
theorem rowUnder_eq_of_samePlaces {top top' : List Data} (h : SamePlaces top top') :
    rowUnder (headerOf top) = rowUnder (headerOf top') := by
  funext cells
  rw [rowUnder_eq, rowUnder_eq, places_eq_of_textAt h]

theorem columnsOf_eq_of_samePlaces (h : List.Forall₂ SamePlaces grid grid') :
    columnsOf grid = columnsOf grid' := by
  cases h with
  | nil => rfl
  | cons htop _ => rw [columnsOf, columnsOf, ← map_fst_places, ← map_fst_places,
      places_eq_of_textAt htop]

theorem bothGive_ofGrid (h : List.Forall₂ SamePlaces grid grid') :
    BothGive (ofGrid name grid) (ofGrid name grid') := by
  cases h with
  | nil => exact .ok ⟨rfl, rfl, .nil⟩
  | @cons top top' body body' htop hbody =>
    have hall : top.all Data.hasText = top'.all Data.hasText := by
      rw [Bool.eq_iff_iff, List.all_eq_true, List.all_eq_true, forall_hasText_iff,
        forall_hasText_iff]
      simp only [htop _]
    have hrows : List.Forall₂ SameTexts (body.map (rowUnder (headerOf top)))
        (body'.map (rowUnder (headerOf top'))) := by
      rw [rowUnder_eq_of_samePlaces htop]
      exact List.rel_map (fun cells cells' hcells => hcells.sameTexts _) hbody
    have hsearch := all_eq_of_forall₂ hrows fun row row' hrow => hrow.isSearchable
    unfold ofGrid
    dsimp only
    rw [hall, hsearch]
    split
    · exact .ok ⟨rfl, columnsOf_eq_of_samePlaces (.cons htop hbody),
        Row.forall₂_filter_hasContent hrows⟩
    · exact .error _

/-- Every cell of the grid has a text. -/
def IsTextualGrid (grid : List (List Data)) : Prop := ∀ cells ∈ grid, ∀ c ∈ cells, c.hasText

/-- A grid in which every cell has a text gives a sheet. -/
theorem ofGrid_of_isTextual {top : List Data} {body : List (List Data)}
    (h : IsTextualGrid (top :: body)) :
    ofGrid name (top :: body) = .ok ⟨name, columnsOf (top :: body),
      (body.map (rowUnder (headerOf top))).filter Row.hasContent⟩ := by
  have htop : top.all Data.hasText := List.all_eq_true.mpr (h top (List.mem_cons_self ..))
  have hrows : (body.map (rowUnder (headerOf top))).all Row.isSearchable := by
    refine List.all_eq_true.mpr fun row hrow => ?_
    obtain ⟨cells, hcells, rfl⟩ := List.mem_map.mp hrow
    exact Row.isSearchable_of_isTextual
      (isTextual_rowUnder _ (h cells (List.mem_cons_of_mem _ hcells)))
  unfold ofGrid
  dsimp only
  rw [htop, hrows]
  rfl

/-- The sheet of a grid in which every cell has a text is one. -/
theorem isTextual_of_ofGrid {s : Sheet} (hgrid : IsTextualGrid grid) (h : ofGrid name grid = .ok s) :
    s.isTextual := by
  cases grid with
  | nil =>
    cases h
    rfl
  | cons top body =>
    rw [ofGrid_of_isTextual hgrid] at h
    obtain rfl := Except.ok.inj h
    refine List.all_eq_true.mpr fun row hrow => ?_
    obtain ⟨cells, hcells, rfl⟩ := List.mem_map.mp (List.mem_of_mem_filter hrow)
    exact isTextual_rowUnder _ (hgrid cells (List.mem_cons_of_mem _ hcells))

theorem error_of_ofGrid {e : FormError} (h : ofGrid name grid = .error e) : e = .numeralTooLong := by
  unfold ofGrid at h
  split at h
  · contradiction
  · dsimp only at h
    split at h
    · contradiction
    · exact (Except.error.inj h).symm

/-- The columns of the second grid are those of the first one in another sequence. -/
def Rearranges (grid grid' : List (List Data)) : Prop :=
  ∃ σ : Equiv.Perm Nat,
    List.Forall₂ (fun cells cells' => ∀ i, cellAt cells' i = cellAt cells (σ i)) grid grid'

theorem Rearranges.exists_moved (h : Rearranges grid grid') :
    ∃ σ : Equiv.Perm Nat, List.Forall₂ (Moved σ) grid grid' := by
  obtain ⟨σ, h⟩ := h
  exact ⟨σ, h.imp fun cells cells' hcells i => congrArg Data.cellText? (hcells i)⟩

theorem Rearranges.columns_perm (h : Rearranges grid grid') :
    (columnsOf grid).Perm (columnsOf grid') := by
  obtain ⟨σ, h⟩ := h.exists_moved
  cases h with
  | nil => exact .refl _
  | cons htop _ => exact columns_perm_of_moved htop

theorem Rearranges.isTextual (h : Rearranges grid grid') (hgrid : IsTextualGrid grid) :
    IsTextualGrid grid' := by
  obtain ⟨σ, hmoved⟩ := h.exists_moved
  clear h
  unfold IsTextualGrid
  induction hmoved with
  | nil => simp
  | @cons cells cells' grid grid' hcells _ ih =>
    exact List.forall_mem_cons.mpr ⟨hcells.hasText (hgrid cells (List.mem_cons_self ..)),
      ih fun cells hmem => hgrid cells (List.mem_cons_of_mem _ hmem)⟩

/-- With distinct columns and a text in every cell, the sequence of the columns makes no difference
to the choices. -/
theorem Rearranges.load_choices (h : Rearranges grid grid') (hgrid : IsTextualGrid grid)
    (hnodup : (columnsOf grid).Nodup) :
    ofGrid name grid >>= Choice.load = ofGrid name grid' >>= Choice.load := by
  have hgrid' := h.isTextual hgrid
  have hcolumns := h.columns_perm
  obtain ⟨σ, h⟩ := h.exists_moved
  cases h with
  | nil => rfl
  | @cons top top' body body' htop hbody =>
    have hcells : ∀ cells ∈ body, ∀ c ∈ cells, c.hasText := fun cells hmem =>
      hgrid cells (List.mem_cons_of_mem _ hmem)
    rw [ofGrid_of_isTextual hgrid, ofGrid_of_isTextual hgrid']
    refine Choice.load_eq_of_sameTexts rfl hcolumns (Row.forall₂_filter_hasContent ?_)
    refine List.rel_map (fun cells cells' hrow => ?_)
      ((List.forall₂_and_left _ _).mpr ⟨hcells, hbody⟩)
    exact sameTexts_of_moved htop hrow.2 hnodup hrow.1

end Grids

/-! ## Steps that load the same -/

/-- A cell without a value, or with the empty text. -/
def Vacant (c : Data) : Prop := c = .null ∨ c = .text ""

/-- A cell with a blank text. -/
def Blank (c : Data) : Prop := c.hasText ∧ strip c.cellText = ""

/-- A row of cells changes in an empty cell. -/
inductive RowStep : List Data → List Data → Prop where
  /-- An empty cell is appended. -/
  | append {cells c} (h : Vacant c) : RowStep cells (cells ++ [c])
  /-- An empty cell becomes an empty cell of either kind. -/
  | replace {left c c' right} (h : Vacant c) (h' : Vacant c') :
      RowStep (left ++ c :: right) (left ++ c' :: right)

/-- A grid changes in what loaders do not see. -/
inductive Step : List (List Data) → List (List Data) → Prop where
  /-- A row, perhaps the header, changes in an empty cell. -/
  | row {before cells cells' after} (h : RowStep cells cells') :
      Step (before ++ cells :: after) (before ++ cells' :: after)
  /-- A row of blank cells is inserted below the header. -/
  | blankRow {top before blank after} (h : ∀ c ∈ blank, Blank c) :
      Step (top :: (before ++ after)) (top :: (before ++ blank :: after))

section Steps

variable {name : String} {grid grid' : List (List Data)} {cells cells' : List Data} {c : Data}

theorem Vacant.cellText?_eq (h : Vacant c) : c.cellText? = some "" := by
  rcases h with rfl | rfl <;> rfl

theorem Vacant.hasText (h : Vacant c) : c.hasText := by
  rcases h with rfl | rfl <;> rfl

theorem textAt_append (left right : List Data) (i : Nat) :
    textAt (left ++ right) i =
      if i < left.length then textAt left i else textAt right (i - left.length) := by
  unfold textAt cellAt
  rw [List.getElem?_append]
  split <;> rfl

theorem RowStep.samePlaces (h : RowStep cells cells') : SamePlaces cells cells' := by
  intro i
  cases h with
  | @append cells c hc =>
    rw [textAt_append]
    split
    · rfl
    · rename_i hi
      have hend : textAt cells i = some "" := by
        unfold textAt cellAt
        rw [List.getElem?_eq_none (by omega)]
        rfl
      rw [hend]
      cases i - cells.length with
      | zero => exact hc.cellText?_eq.symm
      | succ k => rfl
  | @replace left c c' right hc hc' =>
    rw [textAt_append, textAt_append]
    split
    · rfl
    · cases i - left.length with
      | zero => exact hc.cellText?_eq.trans hc'.cellText?_eq.symm
      | succ k => rfl

theorem Step.forall₂_samePlaces {before after : List (List Data)} (h : RowStep cells cells') :
    List.Forall₂ SamePlaces (before ++ cells :: after) (before ++ cells' :: after) := by
  have hrefl : ∀ {rows : List (List Data)}, List.Forall₂ SamePlaces rows rows := fun {rows} =>
    List.forall₂_same.mpr fun _ _ _ => rfl
  exact List.rel_append hrefl (.cons h.samePlaces hrefl)

/-- A row of blank cells has no content under any header. -/
theorem hasContent_rowUnder_of_blank (header : List String) (h : ∀ c ∈ cells, Blank c) :
    (rowUnder header cells).hasContent = false := by
  refine List.any_eq_false.mpr fun e he => ?_
  have hblank : Blank e.2 := forall_rowUnder header ⟨rfl, rfl⟩ h e he
  simp [Row.isFilled_of_hasText hblank.1, hblank.2]

/-- A row of blank cells below the header changes nothing. -/
theorem ofGrid_blankRow (name : String) {top blank : List Data} {before after : List (List Data)}
    (h : ∀ c ∈ blank, Blank c) :
    ofGrid name (top :: (before ++ blank :: after)) = ofGrid name (top :: (before ++ after)) := by
  have hnone := hasContent_rowUnder_of_blank (headerOf top) h
  have hsearch : (rowUnder (headerOf top) blank).isSearchable :=
    Row.isSearchable_of_isTextual (isTextual_rowUnder _ fun c hc => (h c hc).1)
  simp only [ofGrid, List.map_append, List.map_cons, List.filter_append, List.all_append,
    List.all_cons, hsearch, Bool.true_and, List.filter_cons_of_neg (Bool.eq_false_iff.mp hnone)]

theorem Step.bothGive (h : Step grid grid') :
    BothGive (ofGrid name grid) (ofGrid name grid') := by
  cases h with
  | row h => exact bothGive_ofGrid (Step.forall₂_samePlaces h)
  | blankRow h =>
    rw [ofGrid_blankRow name h]
    exact bothGive_ofGrid (List.forall₂_same.mpr fun _ _ _ => rfl)

theorem Step.columnsOf_eq (h : Step grid grid') : columnsOf grid = columnsOf grid' := by
  cases h with
  | row h => exact columnsOf_eq_of_samePlaces (Step.forall₂_samePlaces h)
  | blankRow h => rfl

theorem RowStep.hasText (h : RowStep cells cells') (hcells : ∀ c ∈ cells, c.hasText) :
    ∀ c ∈ cells', c.hasText :=
  Moved.hasText (σ := Equiv.refl Nat) (fun i => (h.samePlaces i).symm) hcells

theorem Step.isTextual (h : Step grid grid') (hgrid : IsTextualGrid grid) :
    IsTextualGrid grid' := by
  unfold IsTextualGrid at hgrid ⊢
  cases h with
  | row h =>
    simp only [List.forall_mem_append, List.forall_mem_cons] at hgrid ⊢
    exact ⟨hgrid.1, h.hasText hgrid.2.1, hgrid.2.2⟩
  | blankRow h =>
    simp only [List.forall_mem_append, List.forall_mem_cons] at hgrid ⊢
    exact ⟨hgrid.1, hgrid.2.1, fun c hc => (h c hc).1, hgrid.2.2⟩

/-- Grids that differ in empty cells at the end of rows, in the kinds of empty cells and in blank
rows below the header load the same questions and choices, or fail alike. When no column occurs
twice and every cell has a text, the choices are the same also with the columns in another sequence.
-/
theorem load_ofGrid_of_steps (name : String) (grid grid' : List (List Data)) :
    (Relation.ReflTransGen Step grid grid' →
      ofGrid name grid >>= Question.load = ofGrid name grid' >>= Question.load ∧
      ofGrid name grid >>= Choice.load = ofGrid name grid' >>= Choice.load) ∧
    (Relation.ReflTransGen (fun g g' => Step g g' ∨ Rearranges g g') grid grid' →
      (columnsOf grid).Nodup → IsTextualGrid grid →
      ofGrid name grid >>= Choice.load = ofGrid name grid' >>= Choice.load) := by
  constructor
  · intro h
    induction h with
    | refl => exact ⟨rfl, rfl⟩
    | tail _ hstep ih =>
      exact ⟨ih.1.trans hstep.bothGive.load_questions, ih.2.trans hstep.bothGive.load_choices⟩
  · intro h hnodup hgrid
    -- the columns stay distinct and every cell keeps a text, so that the last step can be taken
    have hreach : (columnsOf grid).Perm (columnsOf grid') ∧ IsTextualGrid grid' ∧
        ofGrid name grid >>= Choice.load = ofGrid name grid' >>= Choice.load := by
      induction h with
      | refl => exact ⟨.refl _, hgrid, rfl⟩
      | @tail g g' _ hstep ih =>
        obtain ⟨hcolumns, htextual, hload⟩ := ih
        rcases hstep with hstep | hstep
        · exact ⟨hcolumns.trans (.of_eq hstep.columnsOf_eq), hstep.isTextual htextual,
            hload.trans hstep.bothGive.load_choices⟩
        · exact ⟨hcolumns.trans hstep.columns_perm, hstep.isTextual htextual,
            hload.trans (hstep.load_choices htextual (hcolumns.nodup_iff.mp hnodup))⟩
    exact hreach.2.2

/-- A survey of one question. -/
def plainGrid : List (List Data) :=
  [[.text "type", .text "name"], [.text "integer", .text "age"]]

/-- The same survey with a longer header and a blank row. -/
def raggedGrid : List (List Data) :=
  [[.text "type", .text "name", .null], [.text " "], [.text "integer", .text "age"]]

/-- A choice with a note. -/
def forthGrid (note : Data) : List (List Data) :=
  [[.text "list_name", .text "name", .text "label", .text "note"],
    [.text "yn", .text "1", .text "Yes", note]]

/-- The same choice with the columns from the last to the first. -/
def backGrid (note : Data) : List (List Data) :=
  [[.text "note", .text "label", .text "name", .text "list_name"],
    [note, .text "Yes", .text "1", .text "yn"]]

theorem rearranges_forthGrid (note : Data) : Rearranges (forthGrid note) (backGrid note) := by
  have hflip : ∀ a b c d i, cellAt [d, c, b, a] i =
      cellAt [a, b, c, d] (((Equiv.swap 0 3).trans (Equiv.swap 1 2)) i) := by
    intro a b c d i
    match i with
    | 0 => rfl
    | 1 => rfl
    | 2 => rfl
    | 3 => rfl
    | n + 4 =>
      have houter : Equiv.swap 0 3 (n + 4) = n + 4 :=
        Equiv.swap_apply_of_ne_of_ne (by omega) (by omega)
      have hinner : Equiv.swap 1 2 (n + 4) = n + 4 :=
        Equiv.swap_apply_of_ne_of_ne (by omega) (by omega)
      rw [Equiv.trans_apply, houter, hinner]
      rfl
  exact ⟨_, .cons (hflip _ _ _ _) (.cons (hflip _ _ _ _) .nil)⟩

theorem load_ofGrid_of_steps_grids :
    Relation.ReflTransGen Step plainGrid raggedGrid ∧
    (∃ q, ofGrid "survey" raggedGrid >>= Question.load = .ok [q] ∧ q.name = "age" ∧ q.order = 1) ∧
    Rearranges (forthGrid .null) (backGrid .null) ∧
    (columnsOf (forthGrid .null)).Nodup ∧ IsTextualGrid (forthGrid .null) ∧
    ofGrid "choices" (backGrid .null) >>= Choice.load = .ok [⟨"yn", 1, "Yes", 1⟩] := by
  have hragged : Relation.ReflTransGen Step plainGrid raggedGrid := by
    have hheader : Step plainGrid (_ :: [[.text "integer", .text "age"]]) :=
      @Step.row [] _ _ _ (.append (Or.inl rfl))
    have hblank : Step (_ :: [[.text "integer", .text "age"]]) raggedGrid :=
      @Step.blankRow _ [] [.text " "] _ (List.forall_mem_singleton.mpr ⟨rfl, by decide⟩)
    exact .tail (.single hheader) hblank
  have hnodup : (columnsOf (forthGrid .null)).Nodup := by decide
  have htextual : IsTextualGrid (forthGrid .null) := by
    unfold IsTextualGrid
    decide
  obtain ⟨hquestions, -⟩ := (load_ofGrid_of_steps "survey" plainGrid raggedGrid).1 hragged
  have hback := rearranges_forthGrid .null
  have hchoices := (load_ofGrid_of_steps "choices" (forthGrid .null) (backGrid .null)).2
    (.single (.inr hback)) hnodup htextual
  refine ⟨hragged, ?_, hback, hnodup, htextual, ?_⟩
  · rw [← hquestions]
    exact ⟨_, rfl, rfl, rfl⟩
  · rw [← hchoices]
    rfl

/-- A note that is an integer with too many digits stops the search for content when it stands first,
and not when it stands last. -/
theorem load_ofGrid_of_overlong_note :
    Rearranges (forthGrid (.int Scalar.numeralBound)) (backGrid (.int Scalar.numeralBound)) ∧
    (columnsOf (forthGrid (.int Scalar.numeralBound))).Nodup ∧
    ofGrid "choices" (forthGrid (.int Scalar.numeralBound)) >>= Choice.load =
      .ok [⟨"yn", 1, "Yes", 1⟩] ∧
    ofGrid "choices" (backGrid (.int Scalar.numeralBound)) >>= Choice.load =
      .error .numeralTooLong :=
  ⟨rearranges_forthGrid _, by decide +kernel, by decide +kernel, by decide +kernel⟩

end Steps

end Sheet

end SurveyChecks
