import Mathlib.Data.List.Forall2
import Mathlib.Data.List.Perm.Subperm
import SurveyChecks.Data.Views
import SurveyChecks.Proofs.OrderedMap

/-!
# Values that are the same as texts, lists and records

What a value looks like that is the same as a text, as a list of texts or as a record: up to names,
and up to the order of the entries of maps.
-/

namespace SurveyChecks.Data

open OrderedMap (get?)

/-! ## Texts -/

/-- A value is a text, whatever its names. -/
def Denotes (s : String) (d : Data) : Prop := d.unnamed = .text s

/-- The text that a value is, if it is one. -/
def text? (d : Data) : Option String :=
  match d.unnamed with
  | .scalar (.text s) => some s
  | _ => none

section Text

variable {s t : String} {d e : Data}

theorem denotes_text (s : String) : Denotes s (text s) := by
  rw [Denotes, text, unnamed]
  simp

theorem Denotes.unique (h : Denotes s d) (h' : Denotes t d) : s = t := by
  have heq := h.symm.trans h'
  simpa using heq

theorem text?_eq_some_iff : d.text? = some s ↔ Denotes s d := by
  unfold text? Denotes
  split
  · rename_i t ht
    rw [ht]
    simp
  · rename_i hne
    refine iff_of_false (by simp) fun h => hne s h

theorem text_beq_iff : ((text s == d) = true) ↔ Denotes s d := by
  show same (text s) d = true ↔ _
  unfold Denotes
  rw [same]
  split
  · rename_i b hb
    rw [hb]
    cases b <;> simp [BEq.beq, Scalar.same, Scalar.integer?, eq_comm]
  · rename_i hne
    refine iff_of_false (by simp) fun h => hne _ h

theorem beq_text_iff : (d : Data) → (((d == text s) = true) ↔ Denotes s d)
  | .named n d => by
    have hsame : (named n d == text s) = (d == text s) := by
      show same _ _ = same _ _
      rw [same]
    have hunnamed : Denotes s (named n d) ↔ Denotes s d := by
      unfold Denotes
      rw [unnamed]
    rw [hsame, hunnamed]
    exact beq_text_iff d
  | .scalar a => by cases a <;> simp [Denotes, unnamed, BEq.beq, same, Scalar.same, Scalar.integer?]
  | .list _ => by simp [Denotes, unnamed, BEq.beq, same]
  | .pair _ _ => by simp [Denotes, unnamed, BEq.beq, same]
  | .set _ => by simp [Denotes, unnamed, BEq.beq, same]
  | .map _ => by simp [Denotes, unnamed, BEq.beq, same]
  | .knot _ => by simp [Denotes, unnamed, BEq.beq, same]

/-- Values that are texts are the same just when the texts are. -/
theorem Denotes.beq_eq : {d : Data} → Denotes s d → Denotes t e → (d == e) = (s == t)
  | .named n d, h, h' => by
    have hsame : (named n d == e) = (d == e) := by
      show same _ _ = same _ _
      rw [same]
    rw [Denotes, unnamed] at h
    rw [hsame]
    exact Denotes.beq_eq h h'
  | .scalar a, h, h' => by
    have ha : scalar a = text s := by simpa [Denotes, unnamed] using h
    rw [ha]
    refine Bool.eq_iff_iff.mpr (text_beq_iff.trans ?_)
    rw [beq_iff_eq]
    exact ⟨fun hs => hs.unique h', fun heq => heq ▸ h'⟩
  | .list _, h, _ => by simp [Denotes, unnamed] at h
  | .pair _ _, h, _ => by simp [Denotes, unnamed] at h
  | .set _, h, _ => by simp [Denotes, unnamed] at h
  | .map _, h, _ => by simp [Denotes, unnamed] at h
  | .knot _, h, _ => by simp [Denotes, unnamed] at h

end Text

/-! ## Views -/

section Views

variable {d : Data}

theorem opened_eq_unnamed : {d : Data} → (∀ k, d.unnamed ≠ .knot k) → d.opened = d.unnamed
  | .named _ d, h => by
    rw [unnamed] at h ⊢
    rw [opened]
    exact opened_eq_unnamed h
  | .knot k, h => absurd (by simp [unnamed]) (h k)
  | .scalar _, _ | .list _, _ | .pair _ _, _ | .set _, _ | .map _, _ => by simp [opened, unnamed]

theorem isTruthy_unnamed : (d : Data) → d.unnamed.isTruthy = d.isTruthy
  | .named _ d => by
    rw [unnamed, isTruthy]
    exact isTruthy_unnamed d
  | .scalar _ | .list _ | .pair _ _ | .set _ | .map _ | .knot _ => by simp [unnamed]

theorem entries_of_unnamed {m : List (Data × Data)} (h : d.unnamed = .map m) :
    d.entries = .ok m := by
  rw [entries, opened_eq_unnamed (by simp [h]), h]

theorem opened_of_unnamed {xs : List Data} (h : d.unnamed = .list xs) : d.opened = .list xs :=
  (opened_eq_unnamed (by simp [h])).trans h

theorem elements_of_unnamed {xs : List Data} (h : d.unnamed = .list xs) : d.elements = .ok xs := by
  rw [elements, opened_of_unnamed h]

theorem givenElements_of_unnamed {xs : List Data} (h : d.unnamed = .list xs) :
    d.givenElements = .ok xs := by
  rw [givenElements, ← isTruthy_unnamed, h, isTruthy, elements_of_unnamed h]
  cases xs <;> rfl

/-- A map that counts as not given has no entries. -/
theorem isTruthy_of_unnamed {m : List (Data × Data)} (h : d.unnamed = .map m) :
    d.isTruthy = !m.isEmpty := by
  rw [← isTruthy_unnamed, h, isTruthy]

/-- Reading item by item succeeds when each item can be read. -/
theorem exists_mapM_eq_ok {α β ε : Type} {f : α → Except ε β} {P : α → β → Prop} {xs : List α}
    (h : ∀ x ∈ xs, ∃ y, f x = .ok y ∧ P x y) :
    ∃ ys, xs.mapM f = .ok ys ∧ (∀ x ∈ xs, ∃ y ∈ ys, P x y) ∧ ∀ y ∈ ys, ∃ x ∈ xs, P x y := by
  induction xs with
  | nil => exact ⟨[], rfl, by simp, by simp⟩
  | cons x xs ih =>
    obtain ⟨⟨y, hy, hxy⟩, hxs⟩ := List.forall_mem_cons.mp h
    obtain ⟨ys, hys, hleft, hright⟩ := ih hxs
    refine ⟨y :: ys, ?_, ?_, ?_⟩
    · rw [List.mapM_cons, hy, hys]
      rfl
    · refine List.forall_mem_cons.mpr ⟨⟨y, List.mem_cons_self .., hxy⟩, fun x' hx' => ?_⟩
      obtain ⟨y', hy', hP⟩ := hleft x' hx'
      exact ⟨y', List.mem_cons_of_mem _ hy', hP⟩
    · refine List.forall_mem_cons.mpr ⟨⟨x, List.mem_cons_self .., hxy⟩, fun y' hy' => ?_⟩
      obtain ⟨x', hx', hP⟩ := hright y' hy'
      exact ⟨x', List.mem_cons_of_mem _ hx', hP⟩

end Views

/-! ## Lists -/

section Lists

variable {xs : List Data} {ss : List String} {d : Data}

theorem sameItems_iff : (xs ys : List Data) →
    (sameItems xs ys = true ↔ List.Forall₂ (fun x y => (x == y) = true) xs ys)
  | [], [] => by simp [sameItems]
  | [], y :: ys => by simp [sameItems]
  | x :: xs, [] => by simp [sameItems]
  | x :: xs, y :: ys => by
    rw [sameItems, Bool.and_eq_true, List.forall₂_cons, sameItems_iff xs ys]
    rfl

theorem list_beq_iff : ((list xs == d) = true) ↔
    ∃ ys, d.unnamed = .list ys ∧ List.Forall₂ (fun x y => (x == y) = true) xs ys := by
  show same (list xs) d = true ↔ _
  rw [same]
  split
  · rename_i ys hys
    rw [sameItems_iff, hys]
    simp
  · rename_i hne
    refine iff_of_false (by simp) ?_
    rintro ⟨ys, hys, -⟩
    exact hne ys hys

theorem texts_beq_iff : ((texts ss == d) = true) ↔
    ∃ ys, d.unnamed = .list ys ∧ List.Forall₂ Denotes ss ys := by
  rw [texts, list_beq_iff]
  simp only [List.forall₂_map_left_iff, text_beq_iff]

theorem texts_beq_self (ss : List String) : (texts ss == texts ss) = true :=
  texts_beq_iff.mpr ⟨ss.map text, by simp [texts, unnamed], List.forall₂_map_right_iff.mpr
    (List.forall₂_same.mpr fun s _ => denotes_text s)⟩

theorem list_beq_of_forall₂ {α : Type} [BEq α] {as bs : List α}
    (h : List.Forall₂ (fun a b => (a == b) = true) as bs) : (as == bs) = true := by
  induction h with
  | nil => rfl
  | cons hab _ ih =>
    rw [List.cons_beq_cons, Bool.and_eq_true]
    exact ⟨hab, ih⟩

/-- What denotes texts item by item is the same as the list of the texts. -/
theorem beq_map_text {ys : List Data} (h : List.Forall₂ Denotes ss ys) :
    (ys == ss.map text) = true := by
  refine list_beq_of_forall₂ (List.forall₂_map_right_iff.mpr (h.flip.imp fun y s hsy => ?_))
  exact (beq_text_iff y).mpr hsy

theorem denotes_unique {tt : List String} {ys : List Data} (h : List.Forall₂ Denotes ss ys)
    (h' : List.Forall₂ Denotes tt ys) : ss = tt := by
  induction h generalizing tt with
  | nil => exact (List.forall₂_nil_right_iff.mp h').symm
  | cons hsy _ ih =>
    cases h' with
    | cons hty hrest => rw [hsy.unique hty, ih hrest]

theorem exists_denotes_of_mem {s : String} {ys : List Data} (h : List.Forall₂ Denotes ss ys)
    (hs : s ∈ ss) : ∃ y ∈ ys, Denotes s y := by
  induction h with
  | nil => simp at hs
  | cons hsy _ ih =>
    rcases List.mem_cons.mp hs with rfl | hs
    · exact ⟨_, List.mem_cons_self .., hsy⟩
    · obtain ⟨y, hy, hdenotes⟩ := ih hs
      exact ⟨y, List.mem_cons_of_mem _ hy, hdenotes⟩

end Lists

/-! ## Records -/

section Records

variable {ps : List (String × Data)} {n : List (Data × Data)} {d : Data} {s : String}

theorem get?_text (n : List (Data × Data)) (s : String) :
    get? n (text s) = (n.find? fun e => same (text s) e.1).map (·.2) := by
  have hkey : ∀ e : Data × Data, (e.1 == text s) = same (text s) e.1 := fun e =>
    Bool.eq_iff_iff.mpr ((beq_text_iff e.1).trans text_beq_iff.symm)
  unfold get?
  simp only [hkey]

theorem sameEntries_iff : (ps : List (String × Data)) → (n : List (Data × Data)) →
    (sameEntries (ps.map fun p => (text p.1, p.2)) n = true ↔
      ∀ p ∈ ps, ∃ w, get? n (text p.1) = some w ∧ (p.2 == w) = true)
  | [], n => by simp [sameEntries]
  | p :: ps, n => by
    rw [List.map_cons, sameEntries, Bool.and_eq_true, sameEntries_iff ps n, List.forall_mem_cons,
      get?_text]
    refine and_congr_left fun _ => ?_
    cases n.find? fun e => same (text p.1) e.1 with
    | none => simp
    | some e =>
      simp only [Option.map_some, Option.some.injEq, exists_eq_left']
      rfl

/-- A value is the same as a record when it is a map with as many entries that has each field of the
record. -/
theorem record_beq_iff : ((record ps == d) = true) ↔
    ∃ n, d.unnamed = .map n ∧ ps.length = n.length ∧
      ∀ p ∈ ps, ∃ w, get? n (text p.1) = some w ∧ (p.2 == w) = true := by
  show same (record ps) d = true ↔ _
  unfold record
  rw [same]
  split
  · rename_i n hn
    rw [Bool.and_eq_true, sameEntries_iff, hn, List.length_map]
    simp
  · rename_i hne
    refine iff_of_false (by simp) ?_
    rintro ⟨n, hn, -⟩
    exact hne n hn

theorem exists_mem_of_get?_text {w : Data} (h : get? n (text s) = some w) :
    ∃ e ∈ n, Denotes s e.1 ∧ e.2 = w := by
  obtain ⟨e, he, rfl⟩ := Option.map_eq_some_iff.mp h
  have hkey : (e.1 == text s) = true := by simpa using List.find?_some he
  exact ⟨e, List.mem_of_find?_eq_some he, (beq_text_iff e.1).mp hkey, rfl⟩

/-- A map that has each field of a record and no more entries has no others. -/
theorem exists_field_of_mem (hnodup : (ps.map (·.1)).Nodup) (hlength : ps.length = n.length)
    (hfields : ∀ p ∈ ps, ∃ w, get? n (text p.1) = some w ∧ (p.2 == w) = true) :
    ∀ e ∈ n, ∃ p ∈ ps, Denotes p.1 e.1 ∧ (p.2 == e.2) = true := by
  -- the fields are entries with distinct keys, and there are as many of both
  have hperm : ((ps.map (·.1)).map some).Perm (n.map (·.1.text?)) := by
    refine List.Subperm.perm_of_length_le ?_ (by simp [hlength])
    refine List.subperm_of_subset (hnodup.map fun _ _ h => Option.some.inj h) fun o ho => ?_
    obtain ⟨s, hs, rfl⟩ := List.mem_map.mp ho
    obtain ⟨p, hp, rfl⟩ := List.mem_map.mp hs
    obtain ⟨w, hw, -⟩ := hfields p hp
    obtain ⟨e, he, hdenotes, -⟩ := exists_mem_of_get?_text hw
    exact List.mem_map.mpr ⟨e, he, text?_eq_some_iff.mpr hdenotes⟩
  have hkeys : (n.map (·.1.text?)).Nodup :=
    hperm.nodup_iff.mp (hnodup.map fun _ _ h => Option.some.inj h)
  intro e he
  obtain ⟨s, hs, hkey⟩ := List.mem_map.mp (hperm.mem_iff.mpr (List.mem_map_of_mem he))
  obtain ⟨p, hp, rfl⟩ := List.mem_map.mp hs
  obtain ⟨w, hw, hsame⟩ := hfields p hp
  obtain ⟨e', he', hdenotes, rfl⟩ := exists_mem_of_get?_text hw
  obtain rfl : e' = e := List.inj_on_of_nodup_map hkeys he' he
    ((text?_eq_some_iff.mpr hdenotes).trans hkey)
  exact ⟨p, hp, hdenotes, hsame⟩

/-- A record with distinct fields is the same as itself when the values of its fields are. -/
theorem record_beq_self (hnodup : (ps.map (·.1)).Nodup) (h : ∀ p ∈ ps, (p.2 == p.2) = true) :
    (record ps == record ps) = true := by
  refine record_beq_iff.mpr ⟨ps.map fun p => (text p.1, p.2), by simp [record, unnamed], by simp,
    fun p hp => ⟨p.2, ?_, h p hp⟩⟩
  have hkeys : ∀ k ∈ OrderedMap.keys ps, (text k == text p.1) = (k == p.1) := fun k _ =>
    (denotes_text k).beq_eq (denotes_text p.1)
  exact (OrderedMap.get?_mapKeys hkeys).trans (OrderedMap.get?_eq_some_of_mem hnodup hp)

end Records

end SurveyChecks.Data
