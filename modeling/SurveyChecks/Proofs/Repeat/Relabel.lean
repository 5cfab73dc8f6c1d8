import SurveyChecks.Proofs.Dataset

/-!
# Renaming orders and indices

Questions may be moved to other orders and groups to other orders and indices. Matching, the
innermost group and the datasets follow such a change when the orders keep their sequence.
-/

namespace SurveyChecks

/-- A question at another order. -/
def Question.relabel (f : Int → Int) (q : Question) : Question := { q with order := f q.order }

/-- A question at another order, in a group of raised index. -/
def Question.moved (i : Int) (f : Int → Int) (q : Question) : Question :=
  { q with order := f q.order, group := q.group.map (· + i) }

/-- A group with its index raised and its bounds at other orders. -/
def RepeatGroup.relabel (i : Int) (f : Int → Int) (g : RepeatGroup) : RepeatGroup :=
  { g with index := g.index + i, first := f g.first, last := f g.last }

/-- A dataset with the index of its group raised. -/
def Dataset.relabel (i : Int) (d : Dataset) : Dataset := { d with group := d.group.map (· + i) }

@[simp] theorem Question.relabel_id (q : Question) : q.relabel id = q := rfl

@[simp] theorem Question.moved_zero_id (q : Question) : q.moved 0 id = q := by
  simp [Question.moved]

@[simp] theorem RepeatGroup.relabel_zero_id : RepeatGroup.relabel 0 id = id := by
  funext g
  simp [RepeatGroup.relabel]

namespace Repeat

theorem markersOf_relabel (f : Int → Int) (qs : List Question) :
    markersOf (qs.map (Question.relabel f)) =
      (markersOf qs).map fun m => ⟨m.kind, f m.order⟩ := by
  unfold markersOf
  rw [List.filterMap_map, List.map_filterMap]
  refine List.filterMap_congr fun q _ => ?_
  show marker? (q.relabel f) = (marker? q).map _
  unfold marker?
  rw [Option.map_map]
  rfl

end Repeat

namespace RepeatGroup

open Question (DistinctOrders)

variable {f : Int → Int} {i : Int} {gs : List RepeatGroup} {qs qs' : List Question}

theorem contains_relabel (hf : ∀ a b, f a ≤ f b ↔ a ≤ b) (g : RepeatGroup) (o : Int) :
    (g.relabel i f).contains (f o) = g.contains o := by
  simp [contains, relabel, hf]

theorem innermost?_relabel (hf : ∀ a b, f a ≤ f b ↔ a ≤ b) (gs : List RepeatGroup) (o : Int) :
    innermost? (gs.map (relabel i f)) (f o) = (innermost? gs o).map (· + i) := by
  cases hi : innermost? gs o with
  | none =>
    rw [innermost?_eq_none_iff] at hi
    refine innermost?_eq_none_iff.mpr fun g hg => ?_
    obtain ⟨g₀, hg₀, rfl⟩ := List.mem_map.mp hg
    rw [contains_relabel hf]
    exact hi g₀ hg₀
  | some j =>
    obtain ⟨⟨g, hg, hc, rfl⟩, hmax⟩ := innermost?_eq_some_iff.mp hi
    refine innermost?_eq_some_iff.mpr ⟨⟨g.relabel i f, List.mem_map_of_mem hg, ?_, rfl⟩, ?_⟩
    · rw [contains_relabel hf]
      exact hc
    · intro h hh hhc
      obtain ⟨h₀, hh₀, rfl⟩ := List.mem_map.mp hh
      rw [contains_relabel hf] at hhc
      exact Int.add_le_add_right (hmax h₀ hh₀ hhc) i

/-- Numbering the moved pairs of a part of the questions gives the moved groups of that part. -/
theorem numbered_relabel (hd : DistinctOrders qs) (hd' : DistinctOrders qs')
    (hin : ∀ q ∈ qs', q.relabel f ∈ qs) {ps : List (Int × Int)}
    (hps : ∀ p ∈ ps, ∃ q ∈ qs', q.order = p.1) (k n : Nat) :
    numbered qs (k + n) (ps.map fun p => (f p.1, f p.2)) =
      (numbered qs' k ps).map (relabel n f) := by
  induction ps generalizing k with
  | nil => rfl
  | cons p ps ih =>
    obtain ⟨q, hq, hqp⟩ := hps p (List.mem_cons_self ..)
    have hat' : questionAt? qs' p.1 = some q := (questionAt?_eq_some_iff hd').mpr ⟨hq, hqp⟩
    have hat : questionAt? qs (f p.1) = some (q.relabel f) :=
      (questionAt?_eq_some_iff hd).mpr ⟨hin q hq, congrArg f hqp⟩
    have hrest := ih (fun p' hp' => hps p' (List.mem_cons_of_mem _ hp')) (k + 1)
    rw [List.map_cons, numbered_cons, numbered_cons, List.map_cons, ← hrest]
    congr 1
    · simp [between, hat, hat', relabel, Question.relabel, datasetNameOf]
    · congr 1
      omega

theorem numbered_of_part (hd : DistinctOrders qs) (hd' : DistinctOrders qs')
    (hin : ∀ q ∈ qs', q ∈ qs) {ps : List (Int × Int)}
    (hps : ∀ p ∈ ps, ∃ q ∈ qs', q.order = p.1) (k : Nat) :
    numbered qs k ps = numbered qs' k ps := by
  simpa using numbered_relabel (f := id) hd hd' hin hps k 0

theorem numbered_append (qs : List Question) (n : Nat) (ps ps' : List (Int × Int)) :
    numbered qs n (ps ++ ps') = numbered qs n ps ++ numbered qs (n + ps.length) ps' := by
  simp [numbered, List.zipIdx_append]

end RepeatGroup

namespace Dataset

open RepeatGroup (innermost?)

variable {f : Int → Int} {i : Int} {gs gs' : List RepeatGroup} {seen : List String}

theorem newNamed_relabel (seen : List String) (gs : List RepeatGroup) :
    newNamed seen (gs.map (RepeatGroup.relabel i f)) =
      (newNamed seen gs).map (RepeatGroup.relabel i f) := by
  induction gs generalizing seen with
  | nil => rfl
  | cons g gs ih =>
    have hd : (g.relabel i f).dataset = g.dataset := rfl
    simp only [List.map_cons, newNamed, hd]
    by_cases hs : seen.contains g.dataset
    · simp only [hs, if_true]
      exact ih seen
    · simp only [hs, if_false, Bool.false_eq_true, List.map_cons]
      rw [ih]

theorem build_relabel (gs : List RepeatGroup) :
    build (gs.map (RepeatGroup.relabel i f)) = (build gs).map (relabel i) := by
  unfold build
  rw [newNamed_relabel, List.map_cons, List.map_map, List.map_map]
  rfl

/-- A moved question is placed in its moved group, when that is among the groups and still the
innermost one around it. -/
theorem place_relabel (hindex : gs.Pairwise (·.index < ·.index))
    (hindex' : gs'.Pairwise (·.index < ·.index)) (hsub : ∀ g ∈ gs', g.relabel i f ∈ gs)
    {q : Question}
    (hin : innermost? gs (f q.order) = (innermost? gs' q.order).map (· + i)) :
    place gs (q.relabel f) = (place gs' q).moved i f := by
  have hname : nameAt gs ((innermost? gs' q.order).map (· + i)) =
      nameAt gs' (innermost? gs' q.order) := by
    cases hi : innermost? gs' q.order with
    | none => rfl
    | some j =>
      obtain ⟨⟨g, hg, -, rfl⟩, -⟩ := RepeatGroup.innermost?_eq_some_iff.mp hi
      rw [nameAt_of_mem hindex' hg]
      exact nameAt_of_mem hindex (hsub g hg)
  have hin' : innermost? gs (q.relabel f).order = (innermost? gs' q.order).map (· + i) := hin
  unfold place
  rw [hin', hname]
  rfl

/-- A question keeps its group when that is among more groups and still the innermost one. -/
theorem place_of_part (hindex : gs.Pairwise (·.index < ·.index))
    (hindex' : gs'.Pairwise (·.index < ·.index)) (hsub : ∀ g ∈ gs', g ∈ gs) {q : Question}
    (hin : innermost? gs q.order = innermost? gs' q.order) : place gs q = place gs' q := by
  have := place_relabel (f := id) (i := 0) hindex hindex' (by simpa using hsub) (q := q)
    (by simpa using hin)
  simpa using this

end Dataset

end SurveyChecks
