import Mathlib.Algebra.GroupWithZero.Nat
import Mathlib.Data.List.Nodup
import SurveyChecks.OrderedMap

/-!
# Laws of ordered maps

What the operations do to the view `get?` and to the keys.
-/

namespace SurveyChecks.OrderedMap

variable {κ : Type u} {α : Type v} [BEq κ] [LawfulBEq κ]

theorem get?_update (f : Option α → α) (k k' : κ) (m : OrderedMap κ α) :
    get? (update f k m) k' = if k == k' then some (f (get? m k)) else get? m k' := by
  induction m with
  | nil => simp [update, get?_cons]
  | cons p m ih =>
    obtain ⟨k₀, v⟩ := p
    unfold update
    by_cases h₀ : k₀ == k
    · have : k₀ = k := by simpa using h₀
      subst this
      simp only [h₀, if_true, get?_cons]
      by_cases hk : k₀ == k' <;> simp [hk]
    · simp only [h₀, if_false, get?_cons, ih, Bool.false_eq_true]
      by_cases hk : k₀ == k'
      · have : k₀ = k' := by simpa using hk
        subst this
        have hne : ¬ (k == k₀) = true := fun hh => h₀ (by simpa using (beq_iff_eq.mp hh).symm)
        simp [hne]
      · simp [hk]

theorem get?_insert (m : OrderedMap κ α) (k k' : κ) (v : α) :
    get? (m.insert k v) k' = if k == k' then some v else get? m k' :=
  get?_update _ k k' m

/-! ## Keys -/

omit [LawfulBEq κ] in
theorem mem_keys_of_mem_keys_update {f : Option α → α} {k k' : κ} {m : OrderedMap κ α}
    (h : k' ∈ keys (update f k m)) : k' = k ∨ k' ∈ keys m := by
  induction m with
  | nil => exact Or.inl (List.mem_singleton.mp h)
  | cons p m ih =>
    obtain ⟨k₀, v⟩ := p
    rw [update] at h
    split at h
    · exact Or.inr h
    · rcases List.mem_cons.mp h with rfl | h
      · exact Or.inr (List.mem_cons_self ..)
      · exact (ih h).imp_right (List.mem_cons_of_mem _)

theorem keys_update_of_mem {f : Option α → α} {k : κ} {m : OrderedMap κ α} (h : k ∈ keys m) :
    keys (update f k m) = keys m := by
  induction m with
  | nil => simp [keys] at h
  | cons p m ih =>
    obtain ⟨k', v⟩ := p
    rw [update]
    split
    · rfl
    · rename_i hne
      have hk : k ∈ keys m := by
        rcases List.mem_cons.mp h with rfl | h
        · exact absurd (beq_self_eq_true k) hne
        · exact h
      exact congrArg (k' :: ·) (ih hk)

theorem keys_update_of_not_mem {f : Option α → α} {k : κ} {m : OrderedMap κ α} (h : k ∉ keys m) :
    keys (update f k m) = keys m ++ [k] := by
  induction m with
  | nil => rfl
  | cons p m ih =>
    obtain ⟨k', v⟩ := p
    have hne : ¬ (k' == k) = true := fun heq =>
      h (List.mem_cons.mpr (Or.inl (beq_iff_eq.mp heq).symm))
    rw [update, if_neg hne]
    exact congrArg (k' :: ·) (ih fun hin => h (List.mem_cons_of_mem _ hin))

theorem mem_keys_update {f : Option α → α} {k k' : κ} {m : OrderedMap κ α} :
    k' ∈ keys (update f k m) ↔ k' = k ∨ k' ∈ keys m := by
  by_cases hk : k ∈ keys m
  · rw [keys_update_of_mem hk, or_iff_right_of_imp]
    rintro rfl
    exact hk
  · rw [keys_update_of_not_mem hk, List.mem_append, List.mem_singleton, or_comm]

theorem nodup_keys_update {f : Option α → α} {k : κ} {m : OrderedMap κ α}
    (h : (keys m).Nodup) : (keys (update f k m)).Nodup := by
  by_cases hk : k ∈ keys m
  · rwa [keys_update_of_mem hk]
  · rw [keys_update_of_not_mem hk]
    exact List.nodup_append_comm.mp (List.nodup_cons.mpr ⟨hk, h⟩)

/-! ## Updates in turn -/

section InTurn

variable {ι : Type w} {f : ι → Option α → α} {key : ι → κ} {m : OrderedMap κ α}

omit [LawfulBEq κ] in
theorem mem_keys_of_mem_keys_foldl_update {xs : List ι} {k : κ}
    (h : k ∈ keys (xs.foldl (fun m x => update (f x) (key x) m) m)) :
    k ∈ keys m ∨ ∃ x ∈ xs, key x = k := by
  refine List.foldlRecOn (motive := fun m' => k ∈ keys m' → k ∈ keys m ∨ ∃ x ∈ xs, key x = k)
    xs _ Or.inl (fun m' hm' x hx hk => ?_) h
  rcases mem_keys_of_mem_keys_update hk with rfl | hk
  · exact Or.inr ⟨x, hx, rfl⟩
  · exact hm' hk

theorem nodup_keys_foldl_update (xs : List ι) (h : (keys m).Nodup) :
    (keys (xs.foldl (fun m x => update (f x) (key x) m) m)).Nodup :=
  List.foldlRecOn (motive := fun m' => (keys m').Nodup) xs _ h
    fun _ hm' _ _ => nodup_keys_update hm'

/-- Updates in turn put the new keys behind the others, in the order of their first update. -/
theorem keys_foldl_update (xs : List ι) (m : OrderedMap κ α) :
    keys (xs.foldl (fun m x => update (f x) (key x) m) m) =
      keys m ++ ((xs.map key).filter fun k => !(keys m).contains k).eraseDups := by
  induction xs generalizing m with
  | nil => simp
  | cons x xs ih =>
    rw [List.foldl_cons, ih, List.map_cons, List.filter_cons]
    by_cases hx : key x ∈ keys m
    · rw [keys_update_of_mem hx, if_neg (by simpa using hx)]
    · rw [keys_update_of_not_mem hx, if_pos (by simpa using hx), List.eraseDups_cons,
        List.filter_filter, List.append_assoc, List.singleton_append]
      congr 3
      refine List.filter_congr fun k _ => ?_
      rw [Bool.eq_iff_iff]
      simp only [List.contains_append, Bool.not_or, Bool.and_eq_true, List.contains_cons,
        List.contains_nil, Bool.or_false]
      exact and_comm

theorem keys_foldl_update_nil (xs : List ι) :
    keys (xs.foldl (fun m x => update (f x) (key x) m) []) = (xs.map key).eraseDups := by
  have hall : (xs.map key).filter (fun k => !(keys ([] : OrderedMap κ α)).contains k) =
      xs.map key := List.filter_eq_self.mpr fun _ _ => rfl
  rw [keys_foldl_update, hall]
  rfl

end InTurn

/-! ## Maps of pairs -/

omit [LawfulBEq κ] in
theorem exists_of_mem_keys_ofPairs {ps : List (κ × α)} {k : κ} (h : k ∈ keys (ofPairs ps)) :
    ∃ p ∈ ps, p.1 = k :=
  (mem_keys_of_mem_keys_foldl_update h).resolve_left List.not_mem_nil

theorem mem_keys_ofPairs {ps : List (κ × α)} {k : κ} :
    k ∈ keys (ofPairs ps) ↔ ∃ p ∈ ps, p.1 = k := by
  have hkeys : keys (ofPairs ps) = (ps.map (·.1)).eraseDups := keys_foldl_update_nil ps
  rw [hkeys, List.mem_eraseDups, List.mem_map]

theorem mem_of_get?_ofPairs {ps : List (κ × α)} {k : κ} {v : α}
    (h : get? (ofPairs ps) k = some v) : (k, v) ∈ ps := by
  refine List.foldlRecOn (motive := fun m => get? m k = some v → (k, v) ∈ ps) ps _ (by simp)
    (fun m hm p hp hv => ?_) h
  rw [get?_insert] at hv
  by_cases hk : p.1 == k
  · rw [if_pos hk] at hv
    have hpair : p = (k, v) := Prod.ext (by simpa using hk) (Option.some.inj hv)
    exact hpair ▸ hp
  · rw [if_neg hk] at hv
    exact hm hv

theorem mem_of_get?_eq_some {m : OrderedMap κ α} {k : κ} {v : α} (h : get? m k = some v) :
    (k, v) ∈ m := by
  obtain ⟨p, hp, rfl⟩ := Option.map_eq_some_iff.mp h
  have hk : p.1 = k := by simpa using List.find?_some hp
  exact hk ▸ List.mem_of_find?_eq_some hp

theorem exists_get?_of_mem_keys {m : OrderedMap κ α} {k : κ} (h : k ∈ keys m) :
    ∃ v, get? m k = some v := by
  obtain ⟨p, hp, rfl⟩ := List.mem_map.mp h
  have hfind : (m.find? (·.1 == p.1)).isSome := List.find?_isSome.mpr ⟨p, hp, by simp⟩
  obtain ⟨e, he⟩ := Option.isSome_iff_exists.mp hfind
  exact ⟨e.2, by rw [get?, he, Option.map_some]⟩

theorem nodup_keys_ofPairs (ps : List (κ × α)) : (keys (ofPairs ps)).Nodup :=
  nodup_keys_foldl_update ps List.nodup_nil

/-- What stands under a key among pairs with distinct keys is found, when the map has the key and
only finds these pairs. -/
theorem get?_eq_some_of_nodup {m : OrderedMap κ α} {ps : List (κ × α)} {k : κ} {v : α}
    (h : (ps.map (·.1)).Nodup) (hkey : k ∈ keys m) (hfound : ∀ w, get? m k = some w → (k, w) ∈ ps)
    (hkv : (k, v) ∈ ps) : get? m k = some v := by
  obtain ⟨w, hw⟩ := exists_get?_of_mem_keys hkey
  have hsame : ((k, w) : κ × α) = (k, v) := List.inj_on_of_nodup_map h (hfound w hw) hkv rfl
  rw [hw, (Prod.mk.inj hsame).2]

theorem get?_eq_some_of_mem {m : OrderedMap κ α} {k : κ} {v : α} (h : (keys m).Nodup)
    (hkv : (k, v) ∈ m) : get? m k = some v :=
  get?_eq_some_of_nodup h (List.mem_map_of_mem hkv) (fun _ => mem_of_get?_eq_some) hkv

theorem mem_of_mem_ofPairs {ps : List (κ × α)} {p : κ × α} (h : p ∈ ofPairs ps) : p ∈ ps :=
  mem_of_get?_ofPairs (get?_eq_some_of_mem (nodup_keys_ofPairs ps) h)

/-- Of pairs with distinct keys each is found under its key. -/
theorem get?_ofPairs_eq_some_iff {ps : List (κ × α)} {k : κ} {v : α} (h : (ps.map (·.1)).Nodup) :
    get? (ofPairs ps) k = some v ↔ (k, v) ∈ ps :=
  ⟨mem_of_get?_ofPairs, fun hkv => get?_eq_some_of_nodup h
    (mem_keys_ofPairs.mpr ⟨(k, v), hkv, rfl⟩) (fun _ => mem_of_get?_ofPairs) hkv⟩

/-- Pairs with distinct keys can be inserted in any sequence. -/
theorem get?_ofPairs_of_perm {ps ps' : List (κ × α)} (h : (ps.map (·.1)).Nodup)
    (hperm : ps.Perm ps') (k : κ) : get? (ofPairs ps) k = get? (ofPairs ps') k := by
  have h' : (ps'.map (·.1)).Nodup := (hperm.map _).nodup_iff.mp h
  refine Option.ext fun v => ?_
  rw [get?_ofPairs_eq_some_iff h, get?_ofPairs_eq_some_iff h', hperm.mem_iff]

/-! ## Images of the keys -/

section MapKeys

variable {κ' : Type w} [BEq κ']

/-- The map of the images of the keys. -/
def mapKeys (g : κ → κ') (m : OrderedMap κ α) : OrderedMap κ' α := m.map fun p => (g p.1, p.2)

omit [LawfulBEq κ] in
theorem mapKeys_update {g : κ → κ'} {f : Option α → α} {k : κ} {m : OrderedMap κ α}
    (hg : ∀ k' ∈ keys m, (g k' == g k) = (k' == k)) :
    mapKeys g (update f k m) = update f (g k) (mapKeys g m) := by
  induction m with
  | nil => rfl
  | cons p m ih =>
    obtain ⟨k', v⟩ := p
    have hcons : mapKeys g ((k', v) :: m) = (g k', v) :: mapKeys g m := rfl
    have hm := ih fun k₀ hk₀ => hg k₀ (List.mem_cons_of_mem _ hk₀)
    rw [hcons, update, update, hg k' (List.mem_cons_self ..)]
    split
    · rfl
    · rw [← hm]
      rfl

omit [LawfulBEq κ] in
/-- Inserting pairs under the images of their keys, when these tell the keys apart just as the keys
themselves do. -/
theorem mapKeys_ofPairs {g : κ → κ'} {ps : List (κ × α)}
    (hg : ∀ p ∈ ps, ∀ q ∈ ps, (g p.1 == g q.1) = (p.1 == q.1)) :
    mapKeys g (ofPairs ps) = ofPairs (ps.map fun p => (g p.1, p.2)) := by
  rw [ofPairs, ofPairs, List.foldl_map]
  -- the keys of the map so far are those of pairs
  refine (List.foldl_rel (r := fun m m' => mapKeys g m = m' ∧ ∀ k ∈ keys m, ∃ p ∈ ps, p.1 = k)
    ⟨rfl, by simp [keys]⟩ fun q hq m m' ⟨hm, hkeys⟩ => ⟨?_, fun k hk => ?_⟩).1
  · rw [← hm]
    refine mapKeys_update fun k hk => ?_
    obtain ⟨p, hp, rfl⟩ := hkeys k hk
    exact hg p hp q hq
  · rcases mem_keys_of_mem_keys_update hk with rfl | hk
    · exact ⟨q, hq, rfl⟩
    · exact hkeys k hk

omit [LawfulBEq κ] in
theorem get?_mapKeys {g : κ → κ'} {m : OrderedMap κ α} {k : κ} {k' : κ'}
    (hg : ∀ k₀ ∈ keys m, (g k₀ == k') = (k₀ == k)) : get? (mapKeys g m) k' = get? m k := by
  induction m with
  | nil => rfl
  | cons p m ih =>
    have hcons : mapKeys g (p :: m) = (g p.1, p.2) :: mapKeys g m := rfl
    rw [hcons, get?_cons, get?_cons, hg p.1 (List.mem_cons_self ..),
      ih fun k₀ hk₀ => hg k₀ (List.mem_cons_of_mem _ hk₀)]

end MapKeys

/-! ## Groups and tallies -/

theorem getD_get?_foldl_group (key : α → κ) (xs : List α) (m : OrderedMap κ (List α)) (k : κ) :
    (get? (xs.foldl (fun m x => update (fun ys => ys.getD [] ++ [x]) (key x) m) m) k).getD [] =
      (get? m k).getD [] ++ xs.filter (key · == k) := by
  induction xs generalizing m with
  | nil => simp
  | cons x xs ih =>
    rw [List.foldl_cons, ih, get?_update]
    by_cases hk : key x == k
    · have : key x = k := by simpa using hk
      subst this
      simp
    · simp [hk]

/-- A group holds the values of its key in their sequence. -/
theorem getD_get?_groupBy (key : α → κ) (xs : List α) (k : κ) :
    (get? (groupBy key xs) k).getD [] = xs.filter (key · == k) :=
  getD_get?_foldl_group key xs [] k

/-- The groups stand in the order in which their keys occur first. -/
theorem keys_groupBy (key : α → κ) (xs : List α) :
    keys (groupBy key xs) = (xs.map key).eraseDups :=
  keys_foldl_update_nil xs

/-- There is a group for each key that some value has. -/
theorem mem_keys_groupBy {key : α → κ} {xs : List α} {k : κ} :
    k ∈ keys (groupBy key xs) ↔ ∃ x ∈ xs, key x = k := by
  rw [keys_groupBy, List.mem_eraseDups, List.mem_map]

theorem nodup_keys_groupBy (key : α → κ) (xs : List α) : (keys (groupBy key xs)).Nodup :=
  nodup_keys_foldl_update xs List.nodup_nil

/-- No group is empty. -/
theorem getD_get?_groupBy_eq_nil_iff {key : α → κ} {xs : List α} {k : κ} :
    (get? (groupBy key xs) k).getD [] = [] ↔ k ∉ keys (groupBy key xs) := by
  rw [getD_get?_groupBy, mem_keys_groupBy, List.filter_eq_nil_iff]
  simp

/-- A map is known by its keys and what is found under them. -/
theorem eq_map_keys {m : OrderedMap κ α} (h : (keys m).Nodup) (d : α) :
    m = (keys m).map fun k => (k, (get? m k).getD d) := by
  rw [keys, List.map_map]
  conv_lhs => rw [← List.map_id m]
  refine List.map_congr_left fun p hp => ?_
  rw [Function.comp_apply, get?_eq_some_of_mem h hp, Option.getD_some, id_eq]

theorem groupBy_eq_map (key : α → κ) (xs : List α) :
    groupBy key xs = (xs.map key).eraseDups.map fun k => (k, xs.filter (key · == k)) := by
  have hgroups := eq_map_keys (nodup_keys_groupBy key xs) []
  simp only [getD_get?_groupBy, keys_groupBy] at hgroups
  exact hgroups

theorem eq_filter_of_mem_groupBy {key : α → κ} {xs : List α} {p : κ × List α}
    (h : p ∈ groupBy key xs) : p.2 = xs.filter (key · == p.1) := by
  rw [groupBy_eq_map] at h
  obtain ⟨k, -, rfl⟩ := List.mem_map.mp h
  rfl

/-- The first value opens the first group, which takes the values of its key from the rest. -/
theorem groupBy_cons (key : α → κ) (x : α) (xs : List α) :
    groupBy key (x :: xs) = (key x, x :: xs.filter (key · == key x)) ::
      groupBy key (xs.filter fun y => !key y == key x) := by
  have hkeys : (xs.map key).filter (!· == key x) = (xs.filter fun y => !key y == key x).map key := by
    rw [List.filter_map]
    rfl
  rw [groupBy_eq_map, groupBy_eq_map, List.map_cons, List.eraseDups_cons, List.map_cons,
    List.filter_cons_of_pos (by simp), hkeys]
  refine congrArg (_ :: ·) (List.map_congr_left fun k hk => ?_)
  obtain ⟨y, hy, rfl⟩ := List.mem_map.mp (List.mem_eraseDups.mp hk)
  have hne : ¬ key y = key x := by simpa using (List.mem_filter.mp hy).2
  have hhead : ¬ (key x == key y) = true := by simpa using fun heq => hne heq.symm
  rw [List.filter_cons_of_neg (p := (key · == key y)) hhead, List.filter_filter]
  refine congrArg (Prod.mk _) (List.filter_congr fun z _ => ?_)
  by_cases hz : key z = key y <;> simp [hz, hne]

/-- More values behind the others only go on with the groups and their keys. -/
theorem groupBy_append (key : α → κ) (xs ys : List α) :
    (∀ p ∈ groupBy key xs, ∃ more, get? (groupBy key (xs ++ ys)) p.1 = some (p.2 ++ more)) ∧
      keys (groupBy key xs) <+: keys (groupBy key (xs ++ ys)) := by
  have hkeys : keys (groupBy key xs) <+: keys (groupBy key (xs ++ ys)) := by
    rw [keys_groupBy, keys_groupBy, List.map_append, List.eraseDups_append]
    exact List.prefix_append _ _
  refine ⟨fun p hp => ?_, hkeys⟩
  obtain ⟨group, hgroup⟩ := exists_get?_of_mem_keys (hkeys.subset (List.mem_map_of_mem hp))
  have hfilter := getD_get?_groupBy key (xs ++ ys) p.1
  rw [hgroup, Option.getD_some, List.filter_append, ← eq_filter_of_mem_groupBy hp] at hfilter
  exact ⟨_, hgroup.trans (congrArg some hfilter)⟩

theorem getD_get?_foldl_tally (ks : List κ) (m : OrderedMap κ Nat) (k : κ) :
    (get? (ks.foldl (fun m k => update (fun n => n.getD 0 + 1) k m) m) k).getD 0 =
      (get? m k).getD 0 + ks.count k := by
  induction ks generalizing m with
  | nil => simp
  | cons k' ks ih =>
    rw [List.foldl_cons, ih, get?_update, List.count_cons]
    by_cases hk : k' == k
    · have : k' = k := by simpa using hk
      subst this
      simp
      omega
    · simp [hk]

/-- A tally holds how often each value occurs. -/
theorem getD_get?_tally (ks : List κ) (k : κ) : (get? (tally ks) k).getD 0 = ks.count k :=
  (getD_get?_foldl_tally ks [] k).trans (Nat.zero_add _)

omit [LawfulBEq κ] in
theorem sum_values_update_succ (k : κ) (m : OrderedMap κ Nat) :
    ((update (fun n => n.getD 0 + 1) k m).map (·.2)).sum = (m.map (·.2)).sum + 1 := by
  induction m with
  | nil => rfl
  | cons p m ih =>
    rw [update]
    split
    · simp only [List.map_cons, List.sum_cons, Option.getD_some]
      omega
    · simp only [List.map_cons, List.sum_cons, ih]
      omega

omit [LawfulBEq κ] in
/-- A tally counts every value once. -/
theorem sum_values_tally (ks : List κ) : ((tally ks).map (·.2)).sum = ks.length := by
  have hfold : ∀ m : OrderedMap κ Nat,
      ((ks.foldl (fun m k => update (fun n => n.getD 0 + 1) k m) m).map (·.2)).sum =
        (m.map (·.2)).sum + ks.length := by
    induction ks with
    | nil => exact fun m => rfl
    | cons k ks ih =>
      intro m
      rw [List.foldl_cons, ih, sum_values_update_succ, List.length_cons]
      omega
  exact (hfold []).trans (Nat.zero_add _)

theorem mem_keys_tally {ks : List κ} {k : κ} : k ∈ keys (tally ks) ↔ k ∈ ks := by
  have hkeys : keys (tally ks) = (ks.map id).eraseDups := keys_foldl_update_nil ks
  rw [hkeys, List.mem_eraseDups, List.map_id]

/-! ## Images of the values -/

/-- The map of the images of the values. -/
def mapValues {β : Type w} (f : α → β) (m : OrderedMap κ α) : OrderedMap κ β :=
  m.map fun p => (p.1, f p.2)

section MapValues

variable {β : Type w} {f : α → β}

omit [BEq κ] [LawfulBEq κ] in
theorem mapValues_mapValues {γ : Type w'} (g : β → γ) (f : α → β) (m : OrderedMap κ α) :
    mapValues g (mapValues f m) = mapValues (g ∘ f) m :=
  List.map_map

omit [LawfulBEq κ] in
theorem get?_mapValues (f : α → β) (m : OrderedMap κ α) (k : κ) :
    get? (mapValues f m) k = (get? m k).map f := by
  induction m with
  | nil => rfl
  | cons p m ih =>
    have hcons : mapValues f (p :: m) = (p.1, f p.2) :: mapValues f m := rfl
    rw [hcons, get?_cons, get?_cons, ih]
    split <;> rfl

omit [LawfulBEq κ] in
theorem mapValues_update {g : Option α → α} {g' : Option β → β}
    (h : ∀ o, f (g o) = g' (o.map f)) (k : κ) (m : OrderedMap κ α) :
    mapValues f (update g k m) = update g' k (mapValues f m) := by
  induction m with
  | nil => simp [update, mapValues, h]
  | cons p m ih =>
    obtain ⟨k', v⟩ := p
    have hcons : mapValues f ((k', v) :: m) = (k', f v) :: mapValues f m := rfl
    rw [hcons, update, update]
    split
    · rw [mapValues, List.map_cons, h]
      rfl
    · rw [← ih]
      rfl

omit [LawfulBEq κ] in
theorem mapValues_ofPairs (f : α → β) (ps : List (κ × α)) :
    mapValues f (ofPairs ps) = ofPairs (ps.map fun p => (p.1, f p.2)) := by
  have hinsert : ∀ (m : OrderedMap κ α) (p : κ × α),
      mapValues f (m.insert p.1 p.2) = (mapValues f m).insert p.1 (f p.2) := by
    intro m p
    refine mapValues_update ?_ p.1 m
    exact fun _ => rfl
  rw [ofPairs, ofPairs, List.foldl_map]
  exact (List.foldl_hom (mapValues f) fun m p => (hinsert m p).symm).symm

omit [LawfulBEq κ] in
/-- The images of groups are the groups of the images, when these have the same keys. -/
theorem mapValues_groupBy (key : α → κ) (key' : β → κ) (h : ∀ x, key' (f x) = key x)
    (xs : List α) : mapValues (List.map f) (groupBy key xs) = groupBy key' (xs.map f) := by
  have hadd : ∀ m x, mapValues (List.map f) (update (fun ys => ys.getD [] ++ [x]) (key x) m) =
      update (fun ys => ys.getD [] ++ [f x]) (key x) (mapValues (List.map f) m) :=
    fun m x => mapValues_update (fun o => by cases o <;> simp) (key x) m
  rw [groupBy, groupBy, List.foldl_map]
  simp only [h]
  exact (List.foldl_hom (mapValues (List.map f)) fun m x => (hadd m x).symm).symm

end MapValues

end SurveyChecks.OrderedMap
