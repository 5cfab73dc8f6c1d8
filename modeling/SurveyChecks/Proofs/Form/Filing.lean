import SurveyChecks.Proofs.Catalog
import SurveyChecks.Proofs.Form.Labels

/-!
# Filing choices

`Choice.lists` files choices whose orders may be arbitrary and repeated. It keeps the first choice of
each code of each list in the stable sort by order, and files the lists in the order in which they
occur there. Filing what was filed changes nothing, and choices of greater orders only go on with
the lists.
-/

namespace SurveyChecks.Choice

open OrderedMap (get? keys groupBy)

variable {cs ds es ss : List Choice}

/-! ## The stable sort by order -/

/-- The choices `ss` are the choices `cs` in ascending order, those of the same order in the sequence
that they have in `cs`. -/
structure StablySorted (cs ss : List Choice) : Prop where
  ascending : ss.Pairwise fun c d => c.order ≤ d.order
  stable : ∀ o, ss.filter (·.order == o) = cs.filter (·.order == o)

theorem ascending_inOrder (cs : List Choice) :
    (inOrder cs).Pairwise fun c d => c.order ≤ d.order :=
  pairwise_mergeSort_key Choice.order cs

theorem inOrder_perm (cs : List Choice) : (inOrder cs).Perm cs := List.mergeSort_perm ..

theorem inOrder_of_ascending (h : cs.Pairwise fun c d => c.order ≤ d.order) : inOrder cs = cs :=
  List.mergeSort_of_pairwise (h.imp fun hcd => by simpa using hcd)

theorem filter_inOrder (p : Choice → Bool) (cs : List Choice) :
    (inOrder cs).filter p = inOrder (cs.filter p) :=
  filter_mergeSort p cs

/-- Choices are stably sorted in one way only. -/
theorem stablySorted_iff : StablySorted cs ss ↔ ss = inOrder cs := by
  have hstable : ∀ o, (inOrder cs).filter (·.order == o) = cs.filter (·.order == o) :=
    filter_key_mergeSort Choice.order cs
  constructor
  · intro h
    exact eq_of_filter_key_eq h.ascending (ascending_inOrder cs) fun o =>
      (h.stable o).trans (hstable o).symm
  · rintro rfl
    exact ⟨ascending_inOrder cs, hstable⟩

/-- Choices of greater orders, wherever they stand, are sorted behind the others. -/
theorem exists_inOrder_eq_append (hes : es.Perm (cs ++ ds)) (hcs : cs.Sublist es)
    (hlt : ∀ c ∈ cs, ∀ d ∈ ds, c.order < d.order) :
    ∃ more, inOrder es = inOrder cs ++ more := by
  -- the choices up to the greatest of the former orders are the former choices
  let p : Choice → Bool := fun e => cs.any fun c => decide (e.order ≤ c.order)
  have hold : ∀ c ∈ cs, p c := fun c hc => List.any_eq_true.mpr ⟨c, hc, by simp⟩
  have hnew : ∀ d ∈ ds, ¬ p d := by
    intro d hd hp
    obtain ⟨c, hc, hle⟩ := List.any_eq_true.mp hp
    have hcd := hlt c hc d hd
    rw [decide_eq_true_eq] at hle
    omega
  have hfilter : es.filter p = cs := by
    have hsub : cs.Sublist (es.filter p) := by
      have := hcs.filter p
      rwa [List.filter_eq_self.mpr hold] at this
    have hperm : (es.filter p).Perm cs := by
      have := hes.filter p
      rwa [List.filter_append, List.filter_eq_self.mpr hold, List.filter_eq_nil_iff.mpr hnew,
        List.append_nil] at this
    exact (hsub.eq_of_length hperm.length_eq.symm).symm
  have hsplit : inOrder es = inOrder (es.filter p) ++ inOrder (es.filter (!p ·)) := by
    refine mergeSort_eq_append p fun x hx y _ hpx hpy => ?_
    obtain ⟨c, hc, hle⟩ := List.any_eq_true.mp hpx
    rw [decide_eq_true_eq] at hle
    by_contra hge
    exact hpy (List.any_eq_true.mpr ⟨c, hc, by rw [decide_eq_true_eq]; omega⟩)
  exact ⟨_, hfilter ▸ hsplit⟩

/-! ## The first choice of each code -/

theorem sameCode_iff {c d : Choice} : sameCode c d ↔ key c = key d := by
  simp [sameCode, key]

theorem firstOfEach_sublist (cs : List Choice) : (firstOfEach cs).Sublist cs := by
  induction cs with
  | nil => exact List.Sublist.slnil
  | cons c cs ih => exact (List.filter_sublist.trans ih).cons_cons c

theorem nodup_key_firstOfEach (cs : List Choice) : ((firstOfEach cs).map key).Nodup := by
  refine List.pairwise_map.mpr ?_
  induction cs with
  | nil => exact List.Pairwise.nil
  | cons c cs ih =>
    refine List.pairwise_cons.mpr ⟨fun d hd heq => ?_, ih.filter _⟩
    have hne := (List.mem_filter.mp hd).2
    rw [sameCode_iff.mpr heq] at hne
    exact Bool.false_ne_true hne

theorem firstOfEach_of_nodup (h : (cs.map key).Nodup) : firstOfEach cs = cs := by
  induction cs with
  | nil => rfl
  | cons c cs ih =>
    obtain ⟨hc, hcs⟩ := List.nodup_cons.mp h
    rw [firstOfEach, ih hcs]
    refine congrArg (c :: ·) (List.filter_eq_self.mpr fun d hd => ?_)
    have hne : ¬ sameCode c d := fun hsame =>
      hc (sameCode_iff.mp hsame ▸ List.mem_map_of_mem hd)
    simpa using hne

/-- Of the choices with one code in one list the first is kept. -/
theorem filter_key_firstOfEach (cs : List Choice) (k : String × Int) :
    (firstOfEach cs).filter (key · == k) = (cs.find? (key · == k)).toList := by
  induction cs with
  | nil => rfl
  | cons c cs ih =>
    have hcomm : ((firstOfEach cs).filter fun d => !sameCode c d).filter (key · == k) =
        ((firstOfEach cs).filter (key · == k)).filter fun d => !sameCode c d :=
      List.filter_comm ..
    rw [firstOfEach, List.filter_cons, List.find?_cons, hcomm]
    by_cases hk : key c = k
    · have hnone : ((firstOfEach cs).filter (key · == k)).filter (fun d => !sameCode c d) = [] := by
        refine List.filter_eq_nil_iff.mpr fun d hd => ?_
        have hd : key d = k := by simpa using (List.mem_filter.mp hd).2
        simp [sameCode_iff.mpr (hk.trans hd.symm)]
      simp [hk, hnone]
    · have hself : ((firstOfEach cs).filter (key · == k)).filter (fun d => !sameCode c d) =
          (firstOfEach cs).filter (key · == k) := by
        refine List.filter_eq_self.mpr fun d hd => ?_
        have hd : key d = k := by simpa using (List.mem_filter.mp hd).2
        have hne : ¬ sameCode c d := fun hsame => hk ((sameCode_iff.mp hsame).trans hd)
        simpa using hne
      have hkey : (key c == k) = false := by simpa using hk
      rw [hself, ih, hkey]
      rfl

theorem exists_firstOfEach_append (cs ds : List Choice) :
    ∃ more, firstOfEach (cs ++ ds) = firstOfEach cs ++ more := by
  induction cs with
  | nil => exact ⟨_, rfl⟩
  | cons c cs ih =>
    obtain ⟨more, hmore⟩ := ih
    rw [List.cons_append, firstOfEach, firstOfEach, hmore, List.filter_append]
    exact ⟨_, rfl⟩

/-- Leaving out repeated codes leaves out no list and does not change which list occurs first. -/
theorem eraseDups_map_list_firstOfEach (cs : List Choice) :
    ((firstOfEach cs).map (·.list)).eraseDups = (cs.map (·.list)).eraseDups := by
  induction cs with
  | nil => rfl
  | cons c cs ih =>
    have hother : ((firstOfEach cs).filter fun d => !sameCode c d).filter (!·.list == c.list) =
        (firstOfEach cs).filter (!·.list == c.list) := by
      rw [List.filter_filter]
      refine List.filter_congr fun d _ => ?_
      by_cases hd : d.list = c.list
      · simp [hd]
      · have hne : ¬ c.list = d.list := fun heq => hd heq.symm
        simp [hd, sameCode, hne]
    have hmap : ∀ ds : List Choice, (ds.map (·.list)).filter (!· == c.list) =
        (ds.filter (!·.list == c.list)).map (·.list) := fun ds => by
      rw [List.filter_map]
      rfl
    rw [firstOfEach, List.map_cons, List.map_cons, List.eraseDups_cons, List.eraseDups_cons, hmap,
      hother, ← hmap, ← filter_eraseDups, ih, filter_eraseDups]

/-! ## Lists -/

theorem flatMap_groupBy_perm (cs : List Choice) : ((groupBy Choice.list cs).flatMap (·.2)).Perm cs := by
  have hnodup : ((cs.map (·.list)).eraseDups).Nodup := by
    rw [← OrderedMap.keys_groupBy]
    exact OrderedMap.nodup_keys_groupBy Choice.list cs
  have hall : (cs.filter fun c => (cs.map (·.list)).eraseDups.contains c.list) = cs :=
    List.filter_eq_self.mpr fun c hc => by simpa using ⟨c, hc, rfl⟩
  have hperm := Catalog.flatMap_filter_perm Choice.list cs hnodup
  rw [hall] at hperm
  rwa [OrderedMap.groupBy_eq_map, List.flatMap_map]

/-- Grouping choices in ascending order, listing the groups one behind the other and sorting again
gives the same groups. -/
theorem groupBy_inOrder_flatMap : ∀ cs : List Choice, (cs.Pairwise fun c d => c.order ≤ d.order) →
    groupBy Choice.list (inOrder ((groupBy Choice.list cs).flatMap (·.2))) = groupBy Choice.list cs
  | [], _ => by simp [inOrder, groupBy]
  | c :: cs, h => by
    obtain ⟨hc, hcs⟩ := List.pairwise_cons.mp h
    set own := cs.filter (·.list == c.list) with hown
    set others := cs.filter (!·.list == c.list) with hothers
    have hlen : others.length < cs.length + 1 := Nat.lt_succ_of_le (List.length_filter_le _ _)
    have hrest := groupBy_inOrder_flatMap others (hcs.filter _)
    set rest := (groupBy Choice.list others).flatMap (·.2) with hflat
    have hmem : ∀ d ∈ rest, d ∈ others := fun d hd => (flatMap_groupBy_perm others).mem_iff.mp hd
    -- the first choice has the least order, so it stays in front
    have hfirst : inOrder (c :: (own ++ rest)) = c :: inOrder (own ++ rest) := by
      refine mergeSort_cons_of_le fun d hd => hc d ?_
      rcases List.mem_append.mp hd with hd | hd
      · exact (List.mem_filter.mp hd).1
      · exact (List.mem_filter.mp (hmem d hd)).1
    have hown' : (own ++ rest).filter (·.list == c.list) = own := by
      have hnone : rest.filter (·.list == c.list) = [] :=
        List.filter_eq_nil_iff.mpr fun d hd => by simpa using (List.mem_filter.mp (hmem d hd)).2
      rw [List.filter_append, hnone, List.append_nil, hown, List.filter_filter]
      simp only [Bool.and_self]
    have hothers' : (own ++ rest).filter (!·.list == c.list) = rest := by
      have hnone : own.filter (!·.list == c.list) = [] :=
        List.filter_eq_nil_iff.mpr fun d hd => by simpa using (List.mem_filter.mp hd).2
      rw [List.filter_append, hnone, List.nil_append]
      exact List.filter_eq_self.mpr fun d hd => (List.mem_filter.mp (hmem d hd)).2
    rw [OrderedMap.groupBy_cons, List.flatMap_cons, List.cons_append, hfirst,
      OrderedMap.groupBy_cons, filter_inOrder, filter_inOrder, hown', hothers',
      inOrder_of_ascending (hcs.filter _), hrest]
termination_by cs => cs.length
decreasing_by exact hlen

/-- The choices that are kept, in the sequence in which they are filed. -/
def kept (cs : List Choice) : List Choice := firstOfEach (inOrder cs)

theorem ascending_kept (cs : List Choice) : (kept cs).Pairwise fun c d => c.order ≤ d.order :=
  (ascending_inOrder cs).sublist (firstOfEach_sublist _)

theorem nodup_key_kept (cs : List Choice) : ((kept cs).map key).Nodup := nodup_key_firstOfEach _

theorem flatMap_lists_perm (cs : List Choice) : ((lists cs).flatMap (·.2)).Perm (kept cs) :=
  flatMap_groupBy_perm (kept cs)

/-- A list has choices of its name only, each code once, in ascending order. -/
theorem own_of_mem_lists {p : String × List Choice} (hp : p ∈ lists cs) :
    p.2 ≠ [] ∧ (∀ c ∈ p.2, c.list = p.1) ∧ (p.2.map (·.code)).Nodup ∧
      p.2.Pairwise fun c d => c.order ≤ d.order := by
  obtain ⟨c, hc, hlist⟩ := OrderedMap.mem_keys_groupBy.mp (List.mem_map_of_mem hp)
  rw [OrderedMap.eq_filter_of_mem_groupBy hp]
  have hown : ∀ c ∈ (kept cs).filter (·.list == p.1), c.list = p.1 := fun c hc => by
    simpa using (List.mem_filter.mp hc).2
  have hcodes : (((kept cs).filter (·.list == p.1)).map (·.code)).Nodup := by
    have hkeys := (List.pairwise_map.mp (nodup_key_kept cs)).filter (·.list == p.1)
    refine List.pairwise_map.mpr (hkeys.imp_of_mem fun {c d} hc hd hne hcode => ?_)
    exact hne (Prod.ext ((hown c hc).trans (hown d hd).symm) hcode)
  exact ⟨List.ne_nil_of_mem (List.mem_filter.mpr ⟨hc, by simpa using hlist⟩), hown, hcodes,
    (ascending_kept cs).filter _⟩

/-- Of the choices with one code in one list, the first in the sort is filed and no other. -/
theorem filter_key_lists (cs : List Choice) (k : String × Int) :
    ((lists cs).flatMap (·.2)).filter (key · == k) = ((inOrder cs).find? (key · == k)).toList := by
  have hperm := (flatMap_lists_perm cs).filter (key · == k)
  rw [kept, filter_key_firstOfEach] at hperm
  cases hfind : (inOrder cs).find? (key · == k) with
  | none =>
    rw [hfind] at hperm
    exact hperm.eq_nil
  | some c =>
    rw [hfind] at hperm
    exact List.perm_singleton.mp hperm

theorem keys_lists (cs : List Choice) :
    (lists cs).keys = ((inOrder cs).map (·.list)).eraseDups := by
  unfold lists
  rw [OrderedMap.keys_groupBy]
  exact eraseDups_map_list_firstOfEach _

/-- What was filed is filed again in the same way. -/
theorem lists_flatMap_lists (cs : List Choice) : lists ((lists cs).flatMap (·.2)) = lists cs := by
  have hperm : (inOrder ((lists cs).flatMap (·.2))).Perm (kept cs) :=
    (inOrder_perm _).trans (flatMap_lists_perm cs)
  have hkeys : ((inOrder ((lists cs).flatMap (·.2))).map key).Nodup :=
    (hperm.map key).nodup_iff.mpr (nodup_key_kept cs)
  conv_lhs => rw [lists, firstOfEach_of_nodup hkeys]
  exact groupBy_inOrder_flatMap (kept cs) (ascending_kept cs)

/-- Choices of greater orders only go on with the lists. -/
theorem lists_extend (hes : es.Perm (cs ++ ds)) (hcs : cs.Sublist es)
    (hlt : ∀ c ∈ cs, ∀ d ∈ ds, c.order < d.order) :
    (∀ p ∈ lists cs, ∃ more, get? (lists es) p.1 = some (p.2 ++ more)) ∧
      (lists cs).keys <+: (lists es).keys := by
  obtain ⟨later, hlater⟩ := exists_inOrder_eq_append hes hcs hlt
  obtain ⟨more, hmore⟩ := exists_firstOfEach_append (inOrder cs) later
  have hgroups := OrderedMap.groupBy_append Choice.list (kept cs) more
  rwa [kept, ← hmore, ← hlater] at hgroups

/-- Filing choices. With the choices in the stable sort by order, every list holds choices of its
name only, with distinct codes and ascending orders; of each code of each list just the first choice
is kept; and the lists follow each other as they occur first. Filing the choices of all lists gives
the same lists again, and when choices of greater orders are added, wherever they stand, each list
goes on and further lists come last. -/
theorem lists_files (cs : List Choice) :
    (∀ ss, StablySorted cs ss ↔ ss = inOrder cs) ∧
    (∀ p ∈ lists cs, p.2 ≠ [] ∧ (∀ c ∈ p.2, c.list = p.1) ∧ (p.2.map (·.code)).Nodup ∧
      p.2.Pairwise fun c d => c.order ≤ d.order) ∧
    (∀ k, ((lists cs).flatMap (·.2)).filter (key · == k) =
      ((inOrder cs).find? (key · == k)).toList) ∧
    (lists cs).keys = ((inOrder cs).map (·.list)).eraseDups ∧
    lists ((lists cs).flatMap (·.2)) = lists cs ∧
    ∀ ds es, es.Perm (cs ++ ds) → cs.Sublist es → (∀ c ∈ cs, ∀ d ∈ ds, c.order < d.order) →
      (∀ p ∈ lists cs, ∃ more, get? (lists es) p.1 = some (p.2 ++ more)) ∧
        (lists cs).keys <+: (lists es).keys := by
  refine ⟨fun ss => stablySorted_iff, ?lists, filter_key_lists cs, keys_lists cs,
    lists_flatMap_lists cs, ?more⟩
  case lists =>
    intro p hp
    exact own_of_mem_lists hp
  case more =>
    intro ds es hes hcs hlt
    exact lists_extend hes hcs hlt

/-- Choices out of order, of which two share their order and two their code. -/
def tied : List Choice :=
  [⟨"yn", 1, "Yes", 2⟩, ⟨"hue", 3, "Red", 1⟩, ⟨"yn", 1, "Oui", 2⟩, ⟨"yn", 0, "No", 1⟩]

/-- A choice of a greater order. -/
def behindTied : Choice := ⟨"hue", 4, "Blue", 5⟩

theorem lists_files_tied :
    (behindTied :: tied).Perm (tied ++ [behindTied]) ∧
    tied.Sublist (behindTied :: tied) ∧
    (∀ c ∈ tied, ∀ d ∈ [behindTied], c.order < d.order) ∧
    lists tied = [("hue", [⟨"hue", 3, "Red", 1⟩]),
      ("yn", [⟨"yn", 0, "No", 1⟩, ⟨"yn", 1, "Yes", 2⟩])] ∧
    lists ((lists tied).flatMap (·.2)) = lists tied ∧
    ∃ more, get? (lists (behindTied :: tied)) "hue" = some (⟨"hue", 3, "Red", 1⟩ :: more) := by
  obtain ⟨hsort, -, -, -, hagain, hmore⟩ := lists_files tied
  have hperm : (behindTied :: tied).Perm (tied ++ [behindTied]) :=
    (List.perm_append_singleton behindTied tied).symm
  have hsub : tied.Sublist (behindTied :: tied) := List.sublist_cons_self ..
  have hlt : ∀ c ∈ tied, ∀ d ∈ [behindTied], c.order < d.order := by decide
  have hlists : lists tied = [("hue", [⟨"hue", 3, "Red", 1⟩]),
      ("yn", [⟨"yn", 0, "No", 1⟩, ⟨"yn", 1, "Yes", 2⟩])] := by
    have hsorted : StablySorted tied
        [⟨"hue", 3, "Red", 1⟩, ⟨"yn", 0, "No", 1⟩, ⟨"yn", 1, "Yes", 2⟩, ⟨"yn", 1, "Oui", 2⟩] := by
      refine ⟨by decide, fun o => ?_⟩
      by_cases hone : 1 = o
      · subst hone
        decide
      · by_cases htwo : 2 = o
        · subst htwo
          decide
        · simp [tied, hone, htwo]
    unfold lists
    rw [← (hsort _).mp hsorted]
    decide
  refine ⟨hperm, hsub, hlt, hlists, hagain, ?_⟩
  refine (hmore [behindTied] (behindTied :: tied) hperm hsub hlt).1
    ("hue", [⟨"hue", 3, "Red", 1⟩]) ?_
  rw [hlists]
  exact List.mem_cons_self ..

end SurveyChecks.Choice
