import SurveyChecks.Proofs.Form.Kinds
import SurveyChecks.Proofs.Form.Labels
import SurveyChecks.Proofs.Form.Composition
import SurveyChecks.Proofs.Text.Words

/-!
# Types are read by their words

Of the cell of a type only its words count: two survey sheets whose types have the same words are
analysed alike. A type that opens or closes a group of rows may be spelled as one word or as two.
-/

namespace SurveyChecks

open SurveyChecks.Text

namespace Question

/-! ## The words of a type -/

/-- A word starts with another, behind which a word character does not follow. -/
def startsWord (b w : String) : Bool :=
  match after? b.toList w.toList with
  | some rest => atWordEnd rest
  | none => false

/-- The words of a type with the first two joined when they open or close a group of rows. -/
def joinTokens : List String → List String
  | first :: second :: rest =>
    if structureWords.any fun p => first == p.1 && startsWord p.2 second then
      (first ++ "_" ++ second) :: rest
    else first :: second :: rest
  | tokens => tokens

section Joining

variable {cs cs' w rest : List Char} {a b : String}

theorem after?_eq_some_iff : after? w cs = some rest ↔ cs = w ++ rest := by
  unfold after?
  constructor
  · intro h
    split at h
    · rename_i hprefix
      obtain ⟨tail, rfl⟩ := List.isPrefixOf_iff_prefix.mp hprefix
      simpa using h
    · contradiction
  · rintro rfl
    simp

/-- The words `a` and `b` stand at the start of a text, blanks between them, and the word `b` ends
before `rest`. -/
def Spaced (a b : String) (cs rest : List Char) : Prop :=
  ∃ gap, gap ≠ [] ∧ (∀ c ∈ gap, isBlank c) ∧ cs = a.toList ++ (gap ++ (b.toList ++ rest)) ∧
    atWordEnd rest

/-- A word of one of the spellings of a type. -/
structure IsWord (s : String) : Prop where
  ne_nil : s.toList ≠ []
  solid : IsSolid s.toList

theorem isWord_of_mem_structureWords {p : String × String} (hp : p ∈ structureWords) :
    IsWord p.1 ∧ IsWord p.2 := by
  have hall : ∀ p ∈ structureWords, (p.1.toList ≠ [] ∧ IsSolid p.1.toList) ∧
      p.2.toList ≠ [] ∧ IsSolid p.2.toList := by
    decide
  obtain ⟨⟨hne, hsolid⟩, hne', hsolid'⟩ := hall p hp
  exact ⟨⟨hne, hsolid⟩, ⟨hne', hsolid'⟩⟩

theorem IsWord.dropWhile (hb : IsWord b) (hgap : ∀ c ∈ w, isBlank c) (rest : List Char) :
    (w ++ (b.toList ++ rest)).dropWhile isBlank = b.toList ++ rest := by
  obtain ⟨c, cs, hcs⟩ := List.exists_cons_of_ne_nil hb.ne_nil
  have hc : isBlank c = false := hb.solid c (hcs ▸ List.mem_cons_self ..)
  rw [List.dropWhile_append_of_pos hgap, hcs, List.cons_append,
    List.dropWhile_cons_of_neg (by simp [hc])]

theorem joinWords?_eq_some_iff (hb : IsWord b) :
    joinWords? a b cs = some cs' ↔
      ∃ rest, Spaced a b cs rest ∧ cs' = a.toList ++ '_' :: (b.toList ++ rest) := by
  simp only [joinWords?, Option.bind_eq_bind, Option.bind_eq_some_iff, Option.bind_some,
    Option.bind_none, after?_eq_some_iff, List.isEmpty_iff]
  constructor
  · rintro ⟨behind, rfl, hjoin⟩
    split at hjoin
    · contradiction
    · rename_i hgap
      obtain ⟨rest, hrest, hend⟩ := Option.bind_eq_some_iff.mp hjoin
      split at hend
      · rename_i hword
        refine ⟨rest, ⟨behind.takeWhile isBlank, hgap,
          fun c hc => List.all_eq_true.mp List.all_takeWhile c hc, ?_, hword⟩,
          (Option.some.inj hend).symm⟩
        rw [← after?_eq_some_iff.mp hrest, List.takeWhile_append_dropWhile]
      · contradiction
  · rintro ⟨rest, ⟨gap, hne, hgap, rfl, hword⟩, rfl⟩
    refine ⟨_, rfl, ?_⟩
    obtain ⟨c, gap, rfl⟩ := List.exists_cons_of_ne_nil hne
    have htake : ((c :: gap) ++ (b.toList ++ rest)).takeWhile isBlank ≠ [] := by
      simp [hgap c (List.mem_cons_self ..)]
    rw [if_neg htake, hb.dropWhile hgap, after?_eq_some_iff.mpr rfl, Option.bind_some, if_pos hword]

/-- Where a word ends is decided within the piece up to the next blank. -/
theorem atWordEnd_takeWhile (rest : List Char) :
    atWordEnd (rest.takeWhile (!isBlank ·)) = atWordEnd rest := by
  cases rest with
  | nil => rfl
  | cons c rest =>
    cases hc : isBlank c with
    | true => simp [hc, atWordEnd, not_wordChar_of_isBlank hc]
    | false => simp [hc, atWordEnd]

/-- The words of a text with two words at its start, and those of the text with these joined. -/
theorem Spaced.splitWords (ha : IsWord a) (hb : IsWord b) (h : Spaced a b cs rest) :
    splitWords cs = a.toList :: (b.toList ++ rest.takeWhile (!isBlank ·)) ::
        splitWords (rest.dropWhile (!isBlank ·)) ∧
      splitWords (a.toList ++ '_' :: (b.toList ++ rest)) =
        (a.toList ++ '_' :: (b.toList ++ rest.takeWhile (!isBlank ·))) ::
          splitWords (rest.dropWhile (!isBlank ·)) := by
  obtain ⟨gap, hne, hgap, rfl, -⟩ := h
  constructor
  · have hhead : ∀ c ∈ (gap ++ (b.toList ++ rest)).head?, isBlank c := by
      obtain ⟨c, gap, rfl⟩ := List.exists_cons_of_ne_nil hne
      simpa using hgap c (List.mem_cons_self ..)
    rw [splitWords_append ha.solid ha.ne_nil hhead, ← splitWords_dropWhile, hb.dropWhile hgap,
      splitWords_append_rest hb.solid hb.ne_nil]
  · have hjoined : IsSolid (a.toList ++ '_' :: b.toList) := by
      intro c hc
      rcases List.mem_append.mp hc with hc | hc
      · exact ha.solid c hc
      · rcases List.mem_cons.mp hc with rfl | hc
        · decide
        · exact hb.solid c hc
    have hsplit := splitWords_append_rest hjoined (by simp) rest
    simpa using hsplit

/-- A text that does not start with a blank has two words at its start when its first word is the
one and its second starts with the other. -/
theorem exists_spaced_of_splitWords {second : List Char} {ws : List (List Char)} (hb : IsWord b)
    (hhead : ∀ c ∈ cs.head?, isBlank c = false)
    (hwords : Text.splitWords cs = a.toList :: second :: ws)
    (hsecond : startsWord b (String.ofList second)) : ∃ rest, Spaced a b cs rest := by
  obtain ⟨before, behind, hbefore, rfl, hbehind, hblank⟩ := exists_of_splitWords_eq_cons hwords
  obtain ⟨gap, rest, hgap, rfl, -, hend⟩ := exists_of_splitWords_eq_cons hbehind
  have hnil : before = [] := by
    cases before with
    | nil => rfl
    | cons c before =>
      have hc : isBlank c = false := hhead c (by simp)
      rw [hbefore c (List.mem_cons_self ..)] at hc
      contradiction
  obtain ⟨tail, rfl, htail⟩ : ∃ tail, second = b.toList ++ tail ∧ atWordEnd tail := by
    unfold startsWord at hsecond
    split at hsecond
    · rename_i tail hafter
      rw [after?_eq_some_iff, String.toList_ofList] at hafter
      exact ⟨tail, hafter, hsecond⟩
    · contradiction
  refine ⟨tail ++ rest, gap, ?_, hgap, ?_, ?_⟩
  · rintro rfl
    obtain ⟨c, cs, hcs⟩ := List.exists_cons_of_ne_nil hb.ne_nil
    have hc : isBlank c = false := hb.solid c (hcs ▸ List.mem_cons_self ..)
    exact Bool.false_ne_true (hc.symm.trans (hblank c (by simp [hcs])))
  · simp [hnil]
  · cases tail with
    | cons c tail => exact htail
    | nil =>
      cases rest with
      | nil => rfl
      | cons c rest => simp [atWordEnd, not_wordChar_of_isBlank (hend c (by simp))]

/-- Joining the words at the start of a text leaves it as it is, unless a blank stands between the
two words of a spelling. -/
theorem joinStructure_cases (s : String) :
    (joinStructure s = s ∧ ∀ p ∈ structureWords, ∀ rest, ¬ Spaced p.1 p.2 s.toList rest) ∨
      ∃ p ∈ structureWords, ∃ rest, Spaced p.1 p.2 s.toList rest ∧
        (joinStructure s).toList = p.1.toList ++ '_' :: (p.2.toList ++ rest) := by
  unfold joinStructure
  split
  · rename_i cs hjoin
    obtain ⟨p, hp, hjoin⟩ := List.exists_of_findSome?_eq_some hjoin
    obtain ⟨rest, hspaced, rfl⟩ :=
      (joinWords?_eq_some_iff (isWord_of_mem_structureWords hp).2).mp hjoin
    exact Or.inr ⟨p, hp, rest, hspaced, String.toList_ofList⟩
  · rename_i hjoin
    refine Or.inl ⟨rfl, fun p hp rest hspaced => ?_⟩
    have hnone : joinWords? p.1 p.2 s.toList = none := List.findSome?_eq_none_iff.mp hjoin p hp
    rw [(joinWords?_eq_some_iff (isWord_of_mem_structureWords hp).2).mpr
      ⟨rest, hspaced, rfl⟩] at hnone
    contradiction

end Joining

/-- Tokens start with the two words of a spelling. -/
def StartsSpaced (tokens : List String) : Prop :=
  ∃ p ∈ structureWords, ∃ second rest, tokens = p.1 :: second :: rest ∧ startsWord p.2 second

theorem joinTokens_of_startsSpaced {p : String × String} {second : String} {rest : List String}
    (hp : p ∈ structureWords) (hsecond : startsWord p.2 second) :
    joinTokens (p.1 :: second :: rest) = (p.1 ++ "_" ++ second) :: rest := by
  refine if_pos (List.any_eq_true.mpr ⟨p, hp, ?_⟩)
  rw [beq_self_eq_true, hsecond]
  rfl

theorem joinTokens_of_not_startsSpaced {tokens : List String} (h : ¬ StartsSpaced tokens) :
    joinTokens tokens = tokens := by
  match tokens, h with
  | [], _ => rfl
  | [_], _ => rfl
  | first :: second :: rest, h =>
    refine if_neg fun hany => h ?_
    obtain ⟨p, hp, hstarts⟩ := List.any_eq_true.mp hany
    rw [Bool.and_eq_true, beq_iff_eq] at hstarts
    exact ⟨p, hp, second, rest, by rw [hstarts.1], hstarts.2⟩

/-- Joining the first words of a text that does not start with a blank joins its words. -/
theorem words_joinStructure {s : String} (hhead : ∀ c ∈ s.toList.head?, isBlank c = false) :
    words (joinStructure s) = joinTokens (words s) := by
  rcases joinStructure_cases s with ⟨hsame, hnone⟩ | ⟨p, hp, rest, hspaced, hjoin⟩
  · rw [hsame]
    refine (joinTokens_of_not_startsSpaced ?_).symm
    rintro ⟨p, hp, second, rest, hwords, hsecond⟩
    have hsplit : splitWords s.toList =
        p.1.toList :: second.toList :: rest.map String.toList := by
      rw [← map_toList_words, hwords]
      rfl
    obtain ⟨behind, hspaced⟩ := exists_spaced_of_splitWords (isWord_of_mem_structureWords hp).2
      hhead hsplit (String.ofList_toList ▸ hsecond)
    exact hnone p hp behind hspaced
  · obtain ⟨ha, hb⟩ := isWord_of_mem_structureWords hp
    obtain ⟨hwords, hjoined⟩ := hspaced.splitWords ha hb
    have hsecond : startsWord p.2 (String.ofList (p.2.toList ++ rest.takeWhile (!isBlank ·))) := by
      obtain ⟨-, -, -, -, hend⟩ := hspaced
      rw [startsWord, String.toList_ofList, after?_eq_some_iff.mpr rfl]
      exact (atWordEnd_takeWhile rest).trans hend
    rw [words, words, hwords, hjoin, hjoined, List.map_cons, List.map_cons, List.map_cons,
      String.ofList_toList, joinTokens_of_startsSpaced hp hsecond]
    congr 1
    rw [← String.toList_inj]
    simp

/-- The words of the type of a row, by the words of the cell. -/
theorem words_rowType (row : Row) : words (rowType row) = joinTokens (words (row.text "type")) := by
  rw [rowType, words_joinStructure, words_strip]
  intro c hc
  rw [strip, String.toList_ofList] at hc
  exact isBlank_of_head?_stripChars hc

/-- The word for what opens or closes a group of rows, from the two words of its other spelling. -/
def joinedWord (p : String × String) : String := p.1 ++ "_" ++ p.2

theorem append_eq_joinedWord_iff {p p' : String × String} (hp : p ∈ structureWords)
    (hp' : p' ∈ structureWords) {second : String} :
    p'.1 ++ "_" ++ second = joinedWord p ↔ p'.1 = p.1 ∧ second = p.2 := by
  constructor
  · intro h
    have hchars : p'.1.toList ++ '_' :: second.toList = p.1.toList ++ '_' :: p.2.toList := by
      simpa [joinedWord] using congrArg String.toList h
    have hfirst : p'.1 = p.1 := by
      have hdiffer : ∀ p ∈ structureWords, ∀ p' ∈ structureWords,
          p'.1.toList.head? = p.1.toList.head? → p'.1 = p.1 := by
        decide
      have hhead := congrArg List.head? hchars
      rw [List.head?_append_of_ne_nil _ (isWord_of_mem_structureWords hp').1.ne_nil,
        List.head?_append_of_ne_nil _ (isWord_of_mem_structureWords hp).1.ne_nil] at hhead
      exact hdiffer p hp p' hp' hhead
    rw [hfirst] at hchars
    exact ⟨hfirst, String.toList_inj.mp (List.cons.inj (List.append_cancel_left hchars)).2⟩
  · rintro ⟨hfirst, rfl⟩
    rw [joinedWord, hfirst]

/-- The words of a type start with one of the spellings of an end of a group: the joined word or the
two words. -/
def Spells (p : String × String) (tokens : List String) : Prop :=
  tokens.head? = some (joinedWord p) ∨ tokens.take 2 = [p.1, p.2]

theorem head?_joinTokens_iff {p : String × String} (hp : p ∈ structureWords) (tokens : List String) :
    (joinTokens tokens).head?.getD "" = joinedWord p ↔ Spells p tokens := by
  unfold Spells
  by_cases hspaced : StartsSpaced tokens
  · obtain ⟨p', hp', second, rest, rfl, hsecond⟩ := hspaced
    have hne : ∀ p ∈ structureWords, ∀ p' ∈ structureWords, p'.1 ≠ joinedWord p := by decide
    rw [joinTokens_of_startsSpaced hp' hsecond, List.head?_cons, Option.getD_some,
      append_eq_joinedWord_iff hp hp']
    simp [hne p hp p' hp']
  · have htake : tokens.take 2 ≠ [p.1, p.2] := by
      intro h
      have hends : ∀ p ∈ structureWords, startsWord p.2 p.2 := by decide +kernel
      have hcons : tokens = p.1 :: p.2 :: tokens.drop 2 := by
        rw [← List.take_append_drop 2 tokens, h]
        simp
      exact hspaced ⟨p, hp, p.2, tokens.drop 2, hcons, hends p hp⟩
    have hne : ∀ p ∈ structureWords, joinedWord p ≠ "" := by decide
    rw [joinTokens_of_not_startsSpaced hspaced, or_iff_left htake]
    cases tokens with
    | nil => simp [(hne p hp).symm]
    | cons t ts => simp

/-! ## Rows -/

section Rows

variable {columns : List String} {row row' : Row} {rows rows' : List Row} {q q' : Question}

/-- Two rows of a survey sheet have the same cells, except that the texts of the cells of their types
need only have the same words. -/
def SameButSpacing (row row' : Row) : Prop :=
  row.AgreeOutside (· == "type") row' ∧
    (row.cell "type").cellText?.map words = (row'.cell "type").cellText?.map words

theorem words_eq_of_sameButSpacing (h : SameButSpacing row row') :
    words (row.text "type") = words (row'.text "type") := by
  have hwords : ∀ text? : Option String, words (text?.getD "") = (text?.map words).getD [] := by
    rintro (_ | text)
    · rfl
    · rfl
  unfold Row.text Data.cellText
  rw [hwords, hwords, h.2]

theorem hasText_eq_of_sameButSpacing (h : SameButSpacing row row') (column : String) :
    (row.cell column).hasText = (row'.cell column).hasText := by
  by_cases hcolumn : column = "type"
  · rw [hcolumn, ← Data.isSome_cellText?, ← Data.isSome_cellText?,
      ← Option.isSome_map, h.2, Option.isSome_map]
  · rw [h.1.cell_eq (by simpa using hcolumn)]

/-- A question without the type as written. -/
def unspelled (q : Question) : Question := { q with rawType := "" }

@[simp] theorem order_unspelled (q : Question) : q.unspelled.order = q.order := rfl

theorem labelColumn?_ne_type {column : String} (h : labelColumn? columns = some column) :
    (column == "type") = false := by
  unfold labelColumn? at h
  split at h
  · obtain rfl := Option.some.inj h
    decide
  · have hlabel : isLanguageLabel column := List.find?_some h
    refine Bool.eq_false_iff.mpr fun htype => ?_
    rw [beq_iff_eq.mp htype] at hlabel
    exact absurd hlabel (by decide)

theorem rowLabel_congr {column : String} (h : row.text column = row'.text column) :
    rowLabel (some column) row' = rowLabel (some column) row := by
  show Label.safe true (row'.text column) = Label.safe true (row.text column)
  rw [h]

/-- Rows that differ in the spacing of their types are read as the same question, but for the type
as written. -/
theorem ofRow?_of_sameButSpacing (h : SameButSpacing row row') :
    ofRow? columns row' =
      (ofRow? columns row).map fun q => { q with rawType := rowType row' } := by
  have hwords : words (rowType row') = words (rowType row) := by
    rw [words_rowType, words_rowType, words_eq_of_sameButSpacing h]
  have hname : rowName row' = rowName row := by
    unfold rowName
    rw [h.1.text_eq (by decide)]
  have hcalculation : row'.text "calculation" = row.text "calculation" :=
    (h.1.text_eq (by decide)).symm
  have hlabel : rowLabel (labelColumn? columns) row' = rowLabel (labelColumn? columns) row := by
    cases hcolumn : labelColumn? columns with
    | none => rfl
    | some column => exact rowLabel_congr (h.1.text_eq (labelColumn?_ne_type hcolumn))
  have hworking : rowLabel (some workingLabelColumn) row' =
      rowLabel (some workingLabelColumn) row := rowLabel_congr (h.1.text_eq (by decide))
  unfold ofRow?
  dsimp only
  rw [hwords, hname, hcalculation, hlabel, hworking]
  by_cases hdrop : rowName row = "" ∧ (words (rowType row)).head? ≠ some endRepeat
  · rw [if_pos hdrop, if_pos hdrop, Option.map_none]
  · rw [if_neg hdrop, if_neg hdrop, Option.map_some]

/-- Rows that differ in the spacing of their types are legible alike. -/
theorem isLegible_of_sameButSpacing (h : SameButSpacing row row') :
    isLegible columns row = isLegible columns row' := by
  have hcells : row.hasTexts = row'.hasTexts := by
    funext required
    unfold Row.hasTexts
    simp only [hasText_eq_of_sameButSpacing h]
  unfold isLegible
  rw [hcells, ofRow?_of_sameButSpacing h, Option.isNone_map]

/-- A row shows a text just when the only word of its type says so. -/
theorem isNote_eq (h : q.tokens = words q.rawType) : q.isNote = (q.tokens == ["note"]) := by
  have hsolid : IsSolid "note".toList := by decide
  rw [isNote, h, Bool.eq_iff_iff, beq_iff_eq, beq_iff_eq]
  exact strip_eq_iff hsolid (by decide)

/-- The kind of a question that was read depends on the words of the type. -/
theorem classify_of_tokens (hq : q.tokens = words q.rawType) (hq' : q'.tokens = words q'.rawType)
    (ht : q.tokens = q'.tokens) (hc : q.calculation = q'.calculation) :
    q.classify = q'.classify := by
  refine classify_eq_of_isNote ht ?_ hc
  rw [isNote_eq hq, isNote_eq hq', ht]

theorem tokens_eq_words (h : ofRow? columns row = some q) : q.tokens = words q.rawType := by
  rw [tokens_of_ofRow? h]
  unfold ofRow? at h
  dsimp only at h
  split at h
  · contradiction
  · obtain rfl := Option.some.inj h
    dsimp only

/-- A question is what is read from a row, at some place. -/
def ReadFrom (columns : List String) (row : Row) (q : Question) : Prop :=
  ∃ q₀, ofRow? columns row = some q₀ ∧ q = { q₀ with order := q.order }

theorem exists_row_of_mem_load {sheet : Sheet} {qs : List Question} (h : load sheet = .ok qs)
    (hq : q ∈ qs) : ∃ row ∈ sheet.rows, ReadFrom sheet.columns row q := by
  obtain ⟨-, rfl⟩ := load_eq_ok_iff.mp h
  obtain ⟨⟨q₀, n⟩, hq₀, rfl⟩ := List.mem_map.mp hq
  obtain ⟨row, hrow, hread⟩ := List.mem_filterMap.mp (List.fst_mem_of_mem_zipIdx hq₀)
  exact ⟨row, hrow, q₀, hread, rfl⟩

/-- The base of a question that is read from a row is the word for an end of a group just when the
type of the row spells it. -/
theorem ReadFrom.base_eq_iff (h : ReadFrom columns row q) {p : String × String}
    (hp : p ∈ structureWords) : q.base = joinedWord p ↔ Spells p (words (row.text "type")) := by
  obtain ⟨q₀, hread, hq⟩ := h
  have htokens : q.tokens = q₀.tokens := by rw [hq]
  rw [← head?_joinTokens_iff hp, ← words_rowType, base, htokens, tokens_of_ofRow? hread]

/-- The question that is read from a row, with its kind and without the type as written. -/
def readUnspelled (columns : List String) (row : Row) : Option Question :=
  (ofRow? columns row).map fun q => (Form.readAt 0 q).unspelled

theorem readUnspelled_of_sameButSpacing (h : SameButSpacing row row') :
    readUnspelled columns row = readUnspelled columns row' := by
  unfold readUnspelled
  rw [ofRow?_of_sameButSpacing h]
  cases hread : ofRow? columns row with
  | none => rfl
  | some q =>
    have hread' : ofRow? columns row' = some { q with rawType := rowType row' } := by
      rw [ofRow?_of_sameButSpacing h, hread]
      rfl
    have hkind : q.classify = classify { q with rawType := rowType row' } :=
      classify_of_tokens (tokens_eq_words hread) (tokens_eq_words hread') rfl rfl
    simp only [Option.map_some, Form.readAt, unspelled, hkind]

theorem map_unspelled_ofRows (columns : List String) (rows : List Row) :
    (ofRows columns rows).map unspelled = numbered (rows.filterMap (readUnspelled columns)) := by
  rw [Form.ofRows_eq_map_readAt]
  unfold readUnspelled numbered
  rw [← List.map_filterMap, List.zipIdx_map, List.map_map, List.map_map]
  rfl

section Alike

variable {survey survey' : Sheet} (h : survey.Alike SameButSpacing survey')
include h

theorem legible_iff_of_sameButSpacing : Legible survey ↔ Legible survey' := by
  unfold Legible
  rw [← List.all_eq_true, ← List.all_eq_true, ← h.columns,
    all_eq_of_forall₂ h.rows fun _ _ => isLegible_of_sameButSpacing]

/-- Survey sheets that differ in the spacing of types fail to load with the same error, or both have
questions. -/
theorem load_cases_of_sameButSpacing :
    (∃ e, load survey = .error e ∧ load survey' = .error e) ∨ Loads survey ∧ Loads survey' := by
  have hmissing := h.missing_eq ["type", "name"]
  by_cases hcolumns : survey.missing ["type", "name"] = []
  · by_cases hlegible : Legible survey
    · exact Or.inr ⟨⟨hcolumns, hlegible⟩,
        ⟨hmissing ▸ hcolumns, (legible_iff_of_sameButSpacing h).mp hlegible⟩⟩
    · exact Or.inl ⟨_, load_of_not_legible hcolumns hlegible,
        load_of_not_legible (hmissing ▸ hcolumns) (mt (legible_iff_of_sameButSpacing h).mpr hlegible)⟩
  · refine Or.inl ⟨_, load_of_missing hcolumns, ?_⟩
    rw [load_of_missing (hmissing ▸ hcolumns), hmissing, h.name]

/-- Survey sheets that differ in the spacing of types have the same questions, but for the types as
written. -/
theorem load_of_sameButSpacing :
    (load survey).map (List.map unspelled) = (load survey').map (List.map unspelled) := by
  have hread : ∀ row row', SameButSpacing row row' →
      (ofRow? survey.columns row).map unspelled = (ofRow? survey.columns row').map unspelled := by
    intro row row' hrow
    rw [ofRow?_of_sameButSpacing hrow, Option.map_map]
    rfl
  rcases load_cases_of_sameButSpacing h with ⟨e, he, he'⟩ | ⟨hloads, hloads'⟩
  · rw [he, he']
  · rw [load_of_loads hloads, load_of_loads hloads']
    show Except.ok _ = Except.ok _
    rw [← numbered_map (fun _ _ => rfl), ← numbered_map (fun _ _ => rfl), List.map_filterMap,
      List.map_filterMap, ← h.columns, filterMap_eq_of_forall₂ h.rows hread]

end Alike

end Rows

end Question

/-! ## Forms -/

theorem Repeat.markers_unspelled (kind : MarkerKind) (qs : List Question) :
    markers kind (qs.map Question.unspelled) = markers kind qs := by
  unfold markers
  rw [Question.inOrder_map _ Question.order_unspelled, List.filter_map, List.map_map]
  rfl

/-- The groups of questions do not depend on how types are written. -/
theorem RepeatGroup.resolve_unspelled (qs : List Question) :
    resolve (qs.map Question.unspelled) = resolve qs := by
  have hquestion : ∀ o, questionAt? (qs.map Question.unspelled) o =
      (questionAt? qs o).map Question.unspelled := by
    intro o
    rw [questionAt?, questionAt?, ← List.map_reverse, List.find?_map]
    rfl
  have hbetween : between (qs.map Question.unspelled) = between qs := by
    funext n bounds
    unfold between
    rw [hquestion]
    cases questionAt? qs bounds.1 <;> rfl
  unfold resolve
  rw [Repeat.markers_unspelled, Repeat.markers_unspelled, hbetween]

namespace Form

/-- A form without the types of its questions as written. -/
def unspelled (f : Form) : Form := { f with questions := f.questions.map Question.unspelled }

theorem unspelled_analysed {qs qs' : List Question} (name : String) (cs : List Choice)
    (gs : List RepeatGroup) (h : qs.map Question.unspelled = qs'.map Question.unspelled) :
    (analysed name cs qs gs).unspelled = (analysed name cs qs' gs).unspelled := by
  have hplace : ∀ qs : List Question, (qs.map (Dataset.place gs)).map Question.unspelled =
      (qs.map Question.unspelled).map (Dataset.place gs) := by
    intro qs
    rw [List.map_map, List.map_map]
    rfl
  have hquestions : (qs.map (Dataset.place gs)).map Question.unspelled =
      (qs'.map (Dataset.place gs)).map Question.unspelled := by
    rw [hplace, hplace, h]
  have hcatalog : ∀ qs : List Question, ∀ datasets,
      Catalog.ofQuestions (qs.map Question.unspelled) datasets = Catalog.ofQuestions qs datasets :=
    catalog_map (g := Question.unspelled) (fun _ => rfl) (fun _ _ => rfl)
  unfold unspelled analysed
  rw [hquestions, ← hcatalog (qs.map _), hquestions, hcatalog]

/-- Survey sheets that differ in the spacing of types fail to be analysed with the same error, or
have the same form, but for the types as written. -/
theorem parse_of_sameButSpacing {survey survey' : Sheet}
    (h : survey.Alike Question.SameButSpacing survey') (choices : Sheet) (name : String) :
    (∃ e, parse survey choices name = .error e ∧ parse survey' choices name = .error e) ∨
      ∃ f f', parse survey choices name = .ok f ∧ parse survey' choices name = .ok f' ∧
        f.unspelled = f'.unspelled := by
  cases hcs : Choice.load choices with
  | error e => exact Or.inl ⟨e, parse_of_choices_error hcs, parse_of_choices_error hcs⟩
  | ok cs =>
    rcases Question.load_cases_of_sameButSpacing h with ⟨e, he, he'⟩ | ⟨hloads, hloads'⟩
    · exact Or.inl ⟨e, parse_of_questions_error hcs (loadQuestions_of_error he),
        parse_of_questions_error hcs (loadQuestions_of_error he')⟩
    · have hsame : (Question.ofRows survey.columns survey.rows).map Question.unspelled =
          (Question.ofRows survey'.columns survey'.rows).map Question.unspelled := by
        rw [Question.map_unspelled_ofRows, Question.map_unspelled_ofRows, ← h.columns,
          filterMap_eq_of_forall₂ h.rows fun _ _ => Question.readUnspelled_of_sameButSpacing]
      have hresolve : RepeatGroup.resolve (Question.ofRows survey.columns survey.rows) =
          RepeatGroup.resolve (Question.ofRows survey'.columns survey'.rows) := by
        rw [← RepeatGroup.resolve_unspelled, hsame, RepeatGroup.resolve_unspelled]
      rcases parse_of_resolve_eq hcs hcs (loadQuestions_of_loads hloads)
        (loadQuestions_of_loads hloads') hresolve name with herror | ⟨gs, hf, hf'⟩
      · exact Or.inl herror
      · exact Or.inr ⟨_, _, hf, hf', unspelled_analysed name cs gs hsame⟩

end Form

end SurveyChecks
