import SurveyChecks.CommandLine.Arguments

/-!
# What arguments are made of

The operands of a command line are pieces of its words, so the file for the catalog has no character
that no word has.
-/

namespace SurveyChecks

open SurveyChecks.Text

/-! ## Steps that may fail -/

theorem bind_eq_ok_iff {ε α β : Type} {x : Except ε α} {g : α → Except ε β} {y : β} :
    x >>= g = .ok y ↔ ∃ z, x = .ok z ∧ g z = .ok y := by
  cases x with
  | error e => simp [bind, Except.bind]
  | ok z => simp [bind, Except.bind]

theorem map_eq_ok_iff {ε α β : Type} {x : Except ε α} {g : α → β} {y : β} :
    x.map g = .ok y ↔ ∃ z, x = .ok z ∧ g z = y := by
  cases x with
  | error e => simp [Except.map]
  | ok z => simp [Except.map]

theorem mapError_eq_ok_iff {ε ε' α : Type} {x : Except ε α} {g : ε → ε'} {y : α} :
    x.mapError g = .ok y ↔ x = .ok y := by
  constructor
  · intro h
    cases x with
    | error e => contradiction
    | ok z => exact congrArg Except.ok (Except.ok.inj h)
  · rintro rfl
    rfl

/-! ## Words -/

variable {good : Char → Prop} {s : String} {f : Flag} {ws : List Word} {a a' : Arguments}

/-- All characters of a text are good. -/
def Text.MadeOf (good : Char → Prop) (s : String) : Prop := ∀ c ∈ s.toList, good c

namespace Word

/-- The operand of a word, if it has one, has good characters only. -/
def MadeOf (good : Char → Prop) : Word → Prop
  | .operand s | .assigned _ s => Text.MadeOf good s
  | _ => True

/-- What stands behind an equals sign is a piece of the word. -/
theorem madeOf_of_splitEquals? {start value : String} (hs : Text.MadeOf good s)
    (h : splitEquals? s.toList = some (start, value)) : Text.MadeOf good value := by
  unfold splitEquals? at h
  split at h
  · rename_i d after hdrop
    obtain ⟨-, rfl⟩ := Prod.mk.inj (Option.some.inj h)
    intro c hc
    rw [String.toList_ofList] at hc
    have hmem : c ∈ s.toList.dropWhile (· != '=') := hdrop ▸ List.mem_cons_of_mem d hc
    exact hs c ((List.dropWhile_sublist _).mem hmem)
  · contradiction

theorem madeOf_of_inFull? {w : Word} (hs : Text.MadeOf good s) (h : inFull? s = some w) :
    w.MadeOf good := by
  unfold inFull? at h
  split at h
  · obtain rfl := Option.some.inj h
    trivial
  · cases hsplit : splitEquals? s.toList with
    | none => simp [hsplit] at h
    | some p =>
      obtain ⟨start, value⟩ := p
      simp only [hsplit, Option.bind_eq_bind, Option.bind_some, Option.bind_eq_some_iff] at h
      obtain ⟨f, -, h⟩ := h
      obtain rfl := Option.some.inj h
      split
      · exact madeOf_of_splitEquals? hs hsplit
      · trivial

/-- So is what stands behind the start of a flag, however the start is completed. -/
theorem madeOf_of_mem_candidates {p : String × Word} (hs : Text.MadeOf good s)
    (h : p ∈ candidates s) : p.2.MadeOf good := by
  unfold candidates at h
  split at h
  · unfold longStarts at h
    split at h
    · rename_i start value hsplit
      obtain ⟨q, -, rfl⟩ := List.mem_map.mp h
      exact madeOf_of_splitEquals? hs hsplit
    · obtain ⟨q, -, rfl⟩ := List.mem_map.mp h
      trivial
  · obtain ⟨q, -, rfl⟩ := List.mem_map.mp h
    trivial

theorem madeOf_of_ofText {w : Word} (hs : Text.MadeOf good s) (h : ofText s = .ok w) :
    w.MadeOf good := by
  unfold ofText at h
  split at h
  · unfold ofHyphen at h
    split at h
    · rename_i hfull
      obtain rfl := Except.ok.inj h
      exact madeOf_of_inFull? hs hfull
    · split at h
      · rename_i hcandidates
        obtain rfl := Except.ok.inj h
        exact madeOf_of_mem_candidates hs (hcandidates ▸ List.mem_singleton_self _)
      · split at h
        · obtain rfl := Except.ok.inj h
          exact hs
        · obtain rfl := Except.ok.inj h
          trivial
      · contradiction
  · obtain rfl := Except.ok.inj h
    exact hs

theorem madeOf_of_ofTexts {texts : List String} (htexts : ∀ s ∈ texts, Text.MadeOf good s)
    (h : ofTexts texts = .ok ws) : ∀ w ∈ ws, w.MadeOf good := by
  induction texts generalizing ws with
  | nil =>
    obtain rfl := Except.ok.inj h
    simp
  | cons s texts ih =>
    obtain ⟨hs, htexts⟩ := List.forall_mem_cons.mp htexts
    rw [ofTexts] at h
    split at h
    · obtain rfl := Except.ok.inj h
      refine List.forall_mem_cons.mpr ⟨trivial, fun w hw => ?_⟩
      obtain ⟨t, ht, rfl⟩ := List.mem_map.mp hw
      exact htexts t ht
    · obtain ⟨w, hword, h⟩ := bind_eq_ok_iff.mp h
      obtain ⟨ws', hwords, h⟩ := bind_eq_ok_iff.mp h
      obtain rfl := Except.ok.inj h
      exact List.forall_mem_cons.mpr ⟨madeOf_of_ofText hs hword, ih htexts hwords⟩

end Word

/-! ## Arguments -/

namespace Arguments

/-- The file for the catalog, if there is one, has good characters only. -/
def MadeOf (good : Char → Prop) (a : Arguments) : Prop := ∀ s, a.catalog = some s → Text.MadeOf good s

/-- Of the flags only the one for the catalog changes the file for the catalog, to its first
operand. -/
theorem madeOf_of_set {operands : List String} (ha : a.MadeOf good)
    (hoperands : ∀ s ∈ operands, Text.MadeOf good s) (h : a.set f operands = .ok a') :
    a'.MadeOf good := by
  unfold set at h
  dsimp only at h
  split at h
  · contradiction
  · obtain rfl := Except.ok.inj h
    exact ha
  · obtain rfl := Except.ok.inj h
    exact ha
  · obtain rfl := Except.ok.inj h
    intro s hs
    exact hoperands s (List.mem_of_mem_head? hs)
  · obtain rfl := Except.ok.inj h
    exact ha
  · obtain rfl := Except.ok.inj h
    exact ha
  · obtain rfl := Except.ok.inj h
    exact ha

theorem madeOf_of_setAll {fs : List Flag} (ha : a.MadeOf good) (h : a.setAll fs = .ok a') :
    a'.MadeOf good := by
  unfold setAll at h
  induction fs generalizing a with
  | nil =>
    obtain rfl := Except.ok.inj h
    exact ha
  | cons f fs ih =>
    rw [List.foldlM_cons] at h
    obtain ⟨a₁, hset, h⟩ := bind_eq_ok_iff.mp h
    exact ih (madeOf_of_set ha (by simp) hset) h

theorem madeOf_of_assign {operand : String} (ha : a.MadeOf good) (hs : Text.MadeOf good operand)
    (h : a.assign f operand = .ok a') : a'.MadeOf good := by
  unfold assign at h
  split at h
  · contradiction
  · refine madeOf_of_set ha ?_ h
    split <;> simp [hs]

theorem madeOf_of_mem_leadingOperands (hws : ∀ w ∈ ws, w.MadeOf good) :
    ∀ s ∈ leadingOperands ws, Text.MadeOf good s := by
  fun_induction leadingOperands ws with
  | case1 s ws ih =>
    obtain ⟨hs, hws⟩ := List.forall_mem_cons.mp hws
    exact List.forall_mem_cons.mpr ⟨hs, ih hws⟩
  | case2 => simp

/-- A flag takes its operands from the words behind it. -/
theorem madeOf_of_operandsFor {operands : List String} (hws : ∀ w ∈ ws, w.MadeOf good)
    (h : operandsFor f ws = .ok operands) : ∀ s ∈ operands, Text.MadeOf good s := by
  have hleading := madeOf_of_mem_leadingOperands hws
  unfold operandsFor at h
  dsimp only at h
  split at h
  · obtain rfl := Except.ok.inj h
    simp
  · split at h
    · contradiction
    · obtain rfl := Except.ok.inj h
      exact fun s hs => hleading s (List.mem_of_mem_take hs)
  · split at h
    · contradiction
    · obtain rfl := Except.ok.inj h
      exact hleading

/-- Whatever is collected, the file for the catalog comes from the words. -/
theorem madeOf_of_collect {n : Nat} {rest : List String} (ha : a.MadeOf good)
    (hws : ∀ w ∈ ws, w.MadeOf good) (h : collect a n ws = .ok (a', rest)) : a'.MadeOf good := by
  fun_induction collect a n ws generalizing rest with
  | case1 a n =>
    obtain ⟨rfl, -⟩ := Prod.mk.inj (Except.ok.inj h)
    exact ha
  | case2 a n w ws ih => exact ih ha (fun w hw => hws w (List.mem_cons_of_mem _ hw)) h
  | case3 a ws s ih | case4 a ws s ih | case5 a ws ih =>
    obtain ⟨⟨a₁, rest₁⟩, hcollect, h⟩ := map_eq_ok_iff.mp h
    obtain ⟨rfl, -⟩ := Prod.mk.inj h
    exact ih ha (fun w hw => hws w (List.mem_cons_of_mem _ hw)) hcollect
  | case6 a ws f operand ih =>
    obtain ⟨hword, hws⟩ := List.forall_mem_cons.mp hws
    obtain ⟨a₁, hassign, h⟩ := bind_eq_ok_iff.mp h
    exact ih a₁ (madeOf_of_assign ha hword hassign) hws h
  | case7 a ws f cs ih =>
    obtain ⟨fs, -, h⟩ := bind_eq_ok_iff.mp h
    obtain ⟨a₁, hset, h⟩ := bind_eq_ok_iff.mp h
    exact ih a₁ (madeOf_of_setAll ha hset) (fun w hw => hws w (List.mem_cons_of_mem _ hw)) h
  | case8 a ws f ih =>
    obtain ⟨-, hws⟩ := List.forall_mem_cons.mp hws
    obtain ⟨operands, hoperands, h⟩ := bind_eq_ok_iff.mp h
    obtain ⟨a₁, hset, h⟩ := bind_eq_ok_iff.mp h
    exact ih operands a₁ (madeOf_of_set ha (madeOf_of_operandsFor hws hoperands) hset) hws h

/-- The file for the catalog has no character that no word of the command line has. -/
theorem madeOf_of_ofTexts {texts : List String} (htexts : ∀ s ∈ texts, Text.MadeOf good s)
    (h : ofTexts texts = .ok a) : a.MadeOf good := by
  unfold ofTexts at h
  obtain ⟨ws, hwords, h⟩ := bind_eq_ok_iff.mp h
  obtain ⟨⟨a₁, rest⟩, hcollect, h⟩ := bind_eq_ok_iff.mp h
  have hwords := Word.madeOf_of_ofTexts htexts (mapError_eq_ok_iff.mp hwords)
  have hinitial : MadeOf good {} := fun s hs => by cases hs
  dsimp only at h
  split at h
  · obtain rfl := Except.ok.inj h
    exact madeOf_of_collect hinitial hwords hcollect
  · contradiction

end Arguments

end SurveyChecks
