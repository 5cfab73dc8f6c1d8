import SurveyChecks.Proofs.Form.Filing
import SurveyChecks.Proofs.Form.Names

/-!
# References to choice lists

A question refers to a choice list by the second word of its type, so only a list whose name is a
word can be referred to. The name of a list is a cell without its spaces. It need not be a word: the
cell may hold spaces only, and other blanks stay in the name.
-/

namespace SurveyChecks

open SurveyChecks.Text

/-! ## Words -/

namespace Text

variable {c : Char} {cs w : List Char} {ws : List (List Char)} {s t : String}

theorem mem_extendFirst (h : w ∈ extendFirst c ws) : w = [c] ∨ w ∈ ws ∨ ∃ v ∈ ws, w = c :: v := by
  cases ws with
  | nil => exact Or.inl (List.mem_singleton.mp h)
  | cons v ws =>
    rcases List.mem_cons.mp h with rfl | h
    · exact Or.inr (Or.inr ⟨v, List.mem_cons_self .., rfl⟩)
    · exact Or.inr (Or.inl (List.mem_cons_of_mem _ h))

/-- No word has a blank. -/
theorem isSolid_of_mem_splitWords (h : w ∈ splitWords cs) : IsSolid w := by
  induction cs generalizing w with
  | nil => simp [splitWords] at h
  | cons c cs ih =>
    cases hc : isBlank c with
    | true => exact ih (splitWords_cons_of_blank hc ▸ h)
    | false =>
      have hsingle : IsSolid [c] := List.forall_mem_singleton.mpr hc
      cases cs with
      | nil =>
        rw [splitWords_singleton hc] at h
        exact List.mem_singleton.mp h ▸ hsingle
      | cons d cs =>
        cases hd : isBlank d with
        | true =>
          rw [splitWords_cons_blank hc hd] at h
          rcases List.mem_cons.mp h with rfl | h
          · exact hsingle
          · exact ih h
        | false =>
          rw [splitWords_cons_cons hc hd] at h
          rcases mem_extendFirst h with rfl | h | ⟨v, hv, rfl⟩
          · exact hsingle
          · exact ih h
          · exact List.forall_mem_cons.mpr ⟨hc, ih hv⟩

end Text

namespace Question

variable {columns : List String} {row : Row} {sheet : Sheet} {q q₀ : Question} {qs : List Question}
  {l s w : String}

theorem isWord_of_mem_words (h : w ∈ words s) : IsWord w := by
  have hchars : w.toList ∈ splitWords s.toList := by
    rw [← map_toList_words]
    exact List.mem_map_of_mem h
  exact ⟨ne_nil_of_mem_splitWords hchars, isSolid_of_mem_splitWords hchars⟩

theorem IsWord.words_eq (h : IsWord w) : words w = [w] := by
  have hsplit := splitWords_append h.solid h.ne_nil (x := []) (by simp)
  rw [List.append_nil] at hsplit
  rw [words, hsplit]
  simp [splitWords]

/-- The first word of a text is the text just when it is a word. -/
theorem head?_words_eq_iff : (words w).head? = some w ↔ IsWord w := by
  constructor
  · intro h
    exact isWord_of_mem_words (List.mem_of_mem_head? h)
  · intro h
    rw [h.words_eq, List.head?_cons]

/-- Taking the spaces out of a text leaves a word just when the text has a character besides spaces
and no blank besides them. -/
theorem isWord_without_iff :
    IsWord (without (· == ' ') s) ↔
      (∃ c ∈ s.toList, c ≠ ' ') ∧ ∀ c ∈ s.toList, isBlank c → c = ' ' := by
  have hmem : ∀ c, c ∈ (without (· == ' ') s).toList ↔ c ∈ s.toList ∧ c ≠ ' ' := by
    intro c
    simp [without]
  constructor
  · intro h
    obtain ⟨c, hc⟩ := List.exists_mem_of_ne_nil _ h.ne_nil
    refine ⟨⟨c, (hmem c).mp hc⟩, fun d hd hblank => ?_⟩
    by_contra hne
    exact Bool.false_ne_true ((h.solid d ((hmem d).mpr ⟨hd, hne⟩)).symm.trans hblank)
  · rintro ⟨⟨c, hc⟩, hblanks⟩
    refine ⟨List.ne_nil_of_mem ((hmem c).mpr hc), fun d hd => ?_⟩
    obtain ⟨hin, hne⟩ := (hmem d).mp hd
    exact Bool.eq_false_iff.mpr fun hblank => hne (hblanks d hin hblank)

/-! ## Questions that refer to lists -/

/-- The first words of the types that refer to a choice list. -/
def referringWords : List String := ["select_one", "select_multiple"]

/-- Some survey sheet has a question that refers to a list. -/
def CanBeReferenced (l : String) : Prop :=
  ∃ sheet qs, load sheet = .ok qs ∧ ∃ q ∈ qs, q.choiceList? = some l

theorem choiceList?_of_tokens {tokens : List String} (hw : w ∈ referringWords)
    (h : q.tokens = w :: tokens) : q.choiceList? = tokens.head? := by
  have hbase : q.base = w := by
    rw [base, h]
    rfl
  have hselect : q.base = "select_one" ∨ q.base = "select_multiple" := by
    rw [hbase]
    simpa [referringWords] using hw
  rw [choiceList?, if_pos hselect, h, List.getElem?_cons_succ, List.head?_eq_getElem?]

theorem mem_tokens_of_choiceList? (h : q.choiceList? = some l) : l ∈ q.tokens := by
  unfold choiceList? at h
  split at h
  · exact List.mem_of_getElem? h
  · contradiction

theorem ReadFrom.tokens_eq (h : ReadFrom columns row q) : q.tokens = words (rowType row) := by
  obtain ⟨q₀, hread, heq⟩ := h
  have htokens : q.tokens = q₀.tokens := by rw [heq]
  exact htokens.trans (tokens_of_ofRow? hread)

/-- The words of the type of a row that starts with a word for references. -/
theorem words_rowType_of_referring (hw : w ∈ referringWords)
    (htype : row.text "type" = w ++ " " ++ l) : words (rowType row) = w :: words l := by
  have hwords : ∀ w ∈ referringWords, (w.toList ≠ [] ∧ IsSolid w.toList) ∧
      ∀ p ∈ structureWords, p.1 ≠ w := by
    decide
  obtain ⟨⟨hne, hsolid⟩, hstructure⟩ := hwords w hw
  have hsplit : words (w ++ " " ++ l) = w :: words l := by
    have hchars : (w ++ " " ++ l).toList = w.toList ++ ' ' :: l.toList := by simp
    rw [words, hchars, splitWords_append hsolid hne (by simp [isBlank]),
      splitWords_cons_of_blank (by decide), List.map_cons, String.ofList_toList]
    rfl
  rw [words_rowType, htype, hsplit]
  refine joinTokens_of_not_startsSpaced ?_
  rintro ⟨p, hp, second, rest, heq, -⟩
  exact hstructure p hp (List.cons.inj heq).1.symm

/-- A question whose type is a word for references, a space and the name of a list refers to the
first word of the name, so it refers to the list just when the name is a word. -/
theorem ReadFrom.choiceList?_eq (h : ReadFrom columns row q) (hw : w ∈ referringWords)
    (htype : row.text "type" = w ++ " " ++ l) :
    q.choiceList? = (words l).head? ∧ (q.choiceList? = some l ↔ IsWord l) := by
  have htokens : q.tokens = w :: words l :=
    h.tokens_eq.trans (words_rowType_of_referring hw htype)
  have hlist := choiceList?_of_tokens hw htokens
  exact ⟨hlist, by rw [hlist, head?_words_eq_iff]⟩

theorem rowName_ne_empty {c : Char} (hc : c ∈ (strip (row.text "name")).toList)
    (hsolid : isBlank c = false) (hdot : c ≠ '.') : rowName row ≠ "" := by
  intro hempty
  obtain ⟨d, hd, -⟩ := shows_rowName_iff.mpr ⟨c, hc, hsolid, hdot⟩
  simp [hempty] at hd

/-- A row with a name is read as a question. -/
theorem exists_mem_load (h : load sheet = .ok qs) (hrow : row ∈ sheet.rows)
    (hname : rowName row ≠ "") : ∃ q ∈ qs, ReadFrom sheet.columns row q := by
  obtain ⟨q₀, hread⟩ : ∃ q₀, ofRow? sheet.columns row = some q₀ := by
    unfold ofRow?
    dsimp only
    rw [if_neg fun hdrop => hname hdrop.1]
    exact ⟨_, rfl⟩
  obtain ⟨-, rfl⟩ := load_eq_ok_iff.mp h
  obtain ⟨i, hi, hget⟩ := List.getElem_of_mem (List.mem_filterMap.mpr ⟨row, hrow, hread⟩)
  refine ⟨{ q₀ with order := ((1 + i : Nat) : Int) }, ?_, q₀, hread, rfl⟩
  refine List.mem_map.mpr ⟨(q₀, 1 + i), ?_, rfl⟩
  exact List.mk_add_mem_zipIdx_iff_getElem?.mpr (hget ▸ List.getElem?_eq_getElem hi)

/-- A list can be referred to just when its name is a word. -/
theorem canBeReferenced_iff : CanBeReferenced l ↔ IsWord l := by
  constructor
  · rintro ⟨sheet, qs, hload, q, hq, hlist⟩
    obtain ⟨row, -, hread⟩ := exists_row_of_mem_load hload hq
    have hmem := mem_tokens_of_choiceList? hlist
    rw [hread.tokens_eq] at hmem
    exact isWord_of_mem_words hmem
  · intro h
    let row : Row := [("type", .text ("select_one" ++ " " ++ l)), ("name", .text "q")]
    let survey : Sheet := ⟨"survey", ["type", "name"], [row]⟩
    have hload : load survey = .ok (numbered (survey.rows.filterMap (ofRow? survey.columns))) :=
      load_of_loads ⟨rfl, legible_of_isTextual rfl⟩
    have hname : rowName row ≠ "" := by
      have htext : row.text "name" = "q" := rfl
      refine rowName_ne_empty (c := 'q') ?_ (by decide) (by decide)
      rw [htext]
      decide
    obtain ⟨q, hq, hread⟩ := exists_mem_load hload (List.mem_singleton_self row) hname
    have htype : row.text "type" = "select_one" ++ " " ++ l := rfl
    exact ⟨survey, _, hload, q, hq,
      (hread.choiceList?_eq (by simp [referringWords]) htype).2.mpr h⟩

end Question

namespace Choice

open Question (CanBeReferenced IsWord ReadFrom canBeReferenced_iff exists_mem_load
  isWord_without_iff referringWords)

variable {sheet : Sheet} {cs : List Choice} {l : String}

/-! ## The lists of a sheet -/

theorem mem_keys_lists_iff : l ∈ (lists cs).keys ↔ ∃ c ∈ cs, c.list = l := by
  rw [keys_lists, List.mem_eraseDups, List.mem_map]
  simp only [(inOrder_perm cs).mem_iff]

/-- A sheet has a choice of a list just when a row is an option of the list. -/
theorem exists_choice_iff (hload : load sheet = .ok cs) :
    (∃ c ∈ cs, c.list = l) ↔ ∃ row ∈ sheet.rows, isOption (listColumn sheet.columns) l row := by
  obtain ⟨⟨hloads, hlegible⟩, rfl⟩ := load_eq_ok_iff.mp hload
  have hmap : ((ofRows (listColumn sheet.columns) (sheet.rows.filter (·.hasContent)) 1).filter
      (·.list == l)).map (·.code) = ((sheet.rows.filter (·.hasContent)).filter
      (isOption (listColumn sheet.columns) l)).map codeValue :=
    map_code_ofRows l hlegible.of_mem_filter hloads.short 1
  have hcodes := congrArg (· = []) hmap
  simp only [List.map_eq_nil_iff, List.filter_eq_nil_iff, eq_iff_iff] at hcodes
  rw [readings_eq_ofRows]
  have hnot := not_congr hcodes
  simp only [not_forall, not_not, beq_iff_eq, exists_prop, List.mem_filter] at hnot
  rw [hnot]
  refine exists_congr fun row => ⟨fun h => ⟨h.1.1, h.2⟩, fun h => ⟨⟨h.1, ?_⟩, h.2⟩⟩
  exact hasContent_of_isCode (Bool.and_eq_true_iff.mp h.2).2

/-- The text of a cell, without its spaces, is a word: the cell has a character besides spaces and
no blank besides them. -/
def NamesWord (s : String) : Prop :=
  (∃ c ∈ s.toList, c ≠ ' ') ∧ ∀ c ∈ s.toList, isBlank c → c = ' '

/-- The names of all lists are words just when the list cells of all coded rows are words but for
spaces. -/
theorem isWord_keys_iff (hload : load sheet = .ok cs) :
    (∀ l ∈ (lists cs).keys, IsWord l) ↔
      ∀ row ∈ sheet.rows, isCode (codeText row) →
        NamesWord (row.text (listColumn sheet.columns)) := by
  simp only [mem_keys_lists_iff, exists_choice_iff hload]
  constructor
  · intro h row hrow hcode
    exact isWord_without_iff.mp (h _ ⟨row, hrow, by simp [isOption, hcode]⟩)
  · rintro h l ⟨row, hrow, hoption⟩
    obtain ⟨hlist, hcode⟩ := Bool.and_eq_true_iff.mp hoption
    rw [← beq_iff_eq.mp hlist]
    exact isWord_without_iff.mpr (h row hrow hcode)

theorem choiceList_of_mem_lists {f : Form} {p : String × List Choice}
    (hf : f.choiceLists = lists cs) (hp : p ∈ lists cs) : f.choiceList p.1 = p.2 := by
  have hnodup : (lists cs).keys.Nodup := OrderedMap.nodup_keys_groupBy ..
  rw [Form.choiceList, hf, OrderedMap.get?_eq_some_of_mem hnodup hp, Option.getD_some]

/-- The lists of a choices sheet are those of which some row is an option, none of them is empty,
and a form finds each under its name. A list can be referred to just when its name is a word: in
every survey sheet, a row with a name and a type that consists of a word for references, a space and
the name of the list is read as a question that refers to the first word of the name. All lists can
be referred to just when no list cell of a coded row is blank or has a blank besides spaces. -/
theorem lists_referenced (hload : load sheet = .ok cs) :
    (∀ l, l ∈ (lists cs).keys ↔ ∃ row ∈ sheet.rows, isOption (listColumn sheet.columns) l row) ∧
    (∀ p ∈ lists cs,
      p.2 ≠ [] ∧ (∀ f : Form, f.choiceLists = lists cs → f.choiceList p.1 = p.2) ∧
      (CanBeReferenced p.1 ↔ IsWord p.1) ∧
      ∀ survey qs, Question.load survey = .ok qs → ∀ row ∈ survey.rows, ∀ w ∈ referringWords,
        Question.rowName row ≠ "" → row.text "type" = w ++ " " ++ p.1 →
        (∃ q ∈ qs, ReadFrom survey.columns row q) ∧
        ∀ q ∈ qs, ReadFrom survey.columns row q →
          q.choiceList? = (words p.1).head? ∧ (q.choiceList? = some p.1 ↔ IsWord p.1)) ∧
    ((∀ p ∈ lists cs, CanBeReferenced p.1) ↔
      ∀ row ∈ sheet.rows, isCode (codeText row) →
        NamesWord (row.text (listColumn sheet.columns))) := by
  refine ⟨fun l => mem_keys_lists_iff.trans (exists_choice_iff hload), fun p hp => ?list, ?all⟩
  case list =>
    refine ⟨(own_of_mem_lists hp).1, fun f hf => choiceList_of_mem_lists hf hp,
      canBeReferenced_iff, ?_⟩
    intro survey qs hqs row hrow w hw hname htype
    exact ⟨exists_mem_load hqs hrow hname, fun q _ hread => hread.choiceList?_eq hw htype⟩
  case all =>
    rw [← isWord_keys_iff hload]
    simp only [canBeReferenced_iff, OrderedMap.keys, List.forall_mem_map]

/-- A choices sheet with lists that are named with a space, with a tab and not at all. -/
def blankedSheet : Sheet :=
  ⟨"choices", ["list_name", "name", "label"],
    [[("list_name", .text "yes no"), ("name", .text "1")],
     [("list_name", .text "yn\t"), ("name", .text "2")],
     [("list_name", .text ""), ("name", .text "3")]]⟩

/-- The choices of the sheet. -/
def blanked : List Choice := [⟨"yesno", 1, "", 1⟩, ⟨"yn\t", 2, "", 2⟩, ⟨"", 3, "", 3⟩]

/-- A survey sheet with types that are followed by the names of the first two lists. -/
def referringSurvey : Sheet :=
  ⟨"survey", ["type", "name"],
    [[("type", .text "select_one yesno"), ("name", .text "agrees")],
     [("type", .text "select_one yn\t"), ("name", .text "knows")]]⟩

/-- The questions of the sheet. -/
def referring : List Question :=
  [{ name := "agrees", rawType := "select_one yesno", tokens := ["select_one", "yesno"],
     order := 1 },
   { name := "knows", rawType := "select_one yn", tokens := ["select_one", "yn"], order := 2 }]

theorem load_blanked :
    load blankedSheet = .ok blanked ∧ Question.load referringSurvey = .ok referring := by
  decide +kernel

theorem lists_blanked :
    lists blanked = [("yesno", [⟨"yesno", 1, "", 1⟩]), ("yn\t", [⟨"yn\t", 2, "", 2⟩]),
      ("", [⟨"", 3, "", 3⟩])] := by
  have hsorted : inOrder blanked = blanked := inOrder_of_ascending (by decide)
  rw [lists, hsorted]
  decide

theorem lists_referenced_blanked :
    load blankedSheet = .ok blanked ∧ Question.load referringSurvey = .ok referring ∧
    (∃ q ∈ referring, q.choiceList? = some "yesno") ∧
    CanBeReferenced "yesno" ∧ ¬ CanBeReferenced "yn\t" ∧ ¬ CanBeReferenced "" := by
  obtain ⟨-, hlists, -⟩ := lists_referenced load_blanked.1
  have hsolid : IsWord "yesno" := ⟨by decide, by decide⟩
  have htab : ¬ IsWord "yn\t" := fun h => absurd h.solid (by decide)
  have hempty : ¬ IsWord "" := fun h => h.ne_nil rfl
  rw [lists_blanked] at hlists
  obtain ⟨-, -, hfirst, hread⟩ := hlists _ (List.mem_cons_self ..)
  obtain ⟨-, -, hsecond, -⟩ := hlists _ (List.mem_cons_of_mem _ (List.mem_cons_self ..))
  obtain ⟨-, -, hthird, -⟩ := hlists ("", [⟨"", 3, "", 3⟩]) (by simp)
  refine ⟨load_blanked.1, load_blanked.2, ?_, hfirst.mpr hsolid, mt hsecond.mp htab,
    mt hthird.mp hempty⟩
  obtain ⟨⟨q, hq, hrow⟩, hlist⟩ := hread _ _ load_blanked.2 _ (List.mem_cons_self ..)
    "select_one" (by decide) (by decide +kernel) rfl
  exact ⟨q, hq, (hlist q hq hrow).2.mpr hsolid⟩

/-- A list may have no name, and a blank in its name that is no space parts it from the questions
whose types are written with that name. -/
theorem not_isWord_of_blanked_name :
    load blankedSheet = .ok blanked ∧ "" ∈ (lists blanked).keys ∧
    "yn\t" ∈ (lists blanked).keys ∧ ¬ IsSolid "yn\t".toList ∧
    Question.load referringSurvey = .ok referring ∧
    ∃ row ∈ referringSurvey.rows, ∃ q ∈ referring, ReadFrom referringSurvey.columns row q ∧
      row.text "type" = "select_one " ++ "yn\t" ∧ q.choiceList? = some "yn" ∧
      "yn" ∉ (lists blanked).keys := by
  rw [lists_blanked]
  refine ⟨load_blanked.1, by decide, by decide, by decide, load_blanked.2,
    _, List.mem_cons_of_mem _ (List.mem_cons_self ..), _,
    List.mem_cons_of_mem _ (List.mem_cons_self ..), ?_, rfl, by decide, by decide⟩
  exact ⟨{ name := "knows", rawType := "select_one yn", tokens := ["select_one", "yn"] },
    by decide +kernel, rfl⟩

end Choice

end SurveyChecks
