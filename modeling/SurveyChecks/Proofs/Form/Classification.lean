import Mathlib.Data.List.Perm.Basic
import SurveyChecks.Form.Classification

/-!
# Classification by assignments

The kind of a question is that of the first rule which applies. It is also what is left of a few
assignments, of which each overwrites the one before: irrelevant, a number when the first word of the
type is not empty, the kind which that word has of its own, and irrelevant again when something
overrides the type. The two agree because at most one kind is given to a question by the rules that
override, by those for the types with a kind of their own, and by the rule for the other types. So
the order of the table matters between these parts of it only.
-/

namespace SurveyChecks

namespace Question

variable {q : Question} {r : KindRule} {rules rules' : List KindRule} {k : QuestionKind}

/-! ## Assigning kinds -/

/-- The kind that a first word has of its own. -/
def ownKind? : String → Option QuestionKind
  | "text" => some .string
  | "select_one" => some .selectOne
  | "select_multiple" => some .selectMultiple
  | "date" => some .date
  | "today" => some .date
  | "start" => some .datetime
  | "end" => some .datetime
  | "submissiondate" => some .datetime
  | "geopoint" => some .geopoint
  | _ => none

/-- A question is irrelevant whatever kind its first word has. -/
inductive IsOverridden (q : Question) : Prop where
  /-- The first word is that of a row that asks nothing. -/
  | structural (h : q.base ∈ structuralTokens)
  /-- The words are those of an audit of texts. -/
  | audit (h : " ".intercalate q.tokens = "text audit")
  /-- The type is that of a note. -/
  | note (h : Text.strip q.rawType = "note")
  /-- The calculation takes the value from data loaded beforehand. -/
  | preloaded (h : "pulldata".toList <+: (Text.strip (q.calculation.getD "")).toList)

/-- The three tests of the table, in other words. -/
theorem isOverridden_iff :
    q.IsOverridden ↔ q.isStructural = true ∨ q.isNote = true ∨ q.isPreloaded = true := by
  unfold isStructural isNote isPreloaded
  rw [Bool.or_eq_true, List.contains_iff_mem, beq_iff_eq, beq_iff_eq, List.isPrefixOf_iff_prefix]
  constructor
  · intro h
    cases h with
    | structural h => exact Or.inl (Or.inl h)
    | audit h => exact Or.inl (Or.inr h)
    | note h => exact Or.inr (Or.inl h)
    | preloaded h => exact Or.inr (Or.inr h)
  · rintro ((h | h) | h | h)
    · exact .structural h
    · exact .audit h
    · exact .note h
    · exact .preloaded h

instance (q : Question) : Decidable q.IsOverridden := decidable_of_iff _ isOverridden_iff.symm

/-- The kind that is left when each assignment overwrites the one before. -/
def assigned (q : Question) : QuestionKind :=
  let kind := QuestionKind.notRelevant
  let kind := if q.base = "" then kind else .numeric
  let kind := (ownKind? q.base).getD kind
  if q.IsOverridden then .notRelevant else kind

/-! ## The first rule that applies -/

/-- The kind given by the first rule that applies, if one does. -/
def firstKind? (rules : List KindRule) (q : Question) : Option QuestionKind :=
  (rules.find? (·.applies q)).map (·.kind)

theorem firstKind?_append :
    firstKind? (rules ++ rules') q = (firstKind? rules q).or (firstKind? rules' q) := by
  unfold firstKind?
  rw [List.find?_append, Option.map_or]

/-- The rules never give different kinds to one question. -/
def Agree (rules : List KindRule) : Prop :=
  ∀ r ∈ rules, ∀ r' ∈ rules, ∀ q, r.applies q → r'.applies q → r.kind = r'.kind

/-- Among rules that agree, a rule that applies decides the kind wherever it stands. -/
theorem Agree.firstKind?_eq_some_iff (h : Agree rules) :
    firstKind? rules q = some k ↔ ∃ r ∈ rules, r.applies q = true ∧ r.kind = k := by
  unfold firstKind?
  rw [Option.map_eq_some_iff]
  constructor
  · rintro ⟨r, hfind, hkind⟩
    exact ⟨r, List.mem_of_find?_eq_some hfind, by simpa using List.find?_some hfind, hkind⟩
  · rintro ⟨r, hr, happlies, hkind⟩
    cases hfind : rules.find? (·.applies q) with
    | none => exact absurd happlies (List.find?_eq_none.mp hfind r hr)
    | some r' =>
      have happlies' : r'.applies q = true := by simpa using List.find?_some hfind
      have hsame := h r' (List.mem_of_find?_eq_some hfind) r hr q happlies' happlies
      exact ⟨r', rfl, hsame.trans hkind⟩

/-- So the order of rules that agree does not matter. -/
theorem Agree.firstKind?_eq_of_perm (h : Agree rules) (hperm : rules'.Perm rules) :
    firstKind? rules' q = firstKind? rules q := by
  have h' : Agree rules' := fun r hr r' hr' =>
    h r (hperm.mem_iff.mp hr) r' (hperm.mem_iff.mp hr')
  ext k
  rw [h'.firstKind?_eq_some_iff, h.firstKind?_eq_some_iff]
  simp only [hperm.mem_iff]

theorem agree_of_kind (h : ∀ r ∈ rules, r.kind = k) : Agree rules := by
  intro r hr r' hr' _ _ _
  rw [h r hr, h r' hr']

/-! ## The parts of the table -/

theorem mem_kindRules : r ∈ kindRules ↔ r ∈ overrideRules ∨ r ∈ specificRules ∨ r ∈ otherRules := by
  rw [kindRules, List.mem_append, List.mem_append, or_assoc]

theorem kind_of_mem_overrideRules (h : r ∈ overrideRules) : r.kind = .notRelevant := by
  simp only [overrideRules, List.mem_cons, List.not_mem_nil, or_false] at h
  rcases h with rfl | rfl | rfl <;> rfl

theorem kind_of_mem_specificRules (h : r ∈ specificRules) :
    r.kind ≠ .notRelevant ∧ r.kind ≠ .numeric := by
  simp only [specificRules, List.mem_cons, List.not_mem_nil, or_false] at h
  rcases h with rfl | rfl | rfl | rfl | rfl | rfl <;> exact ⟨by decide, by decide⟩

theorem kind_of_mem_otherRules (h : r ∈ otherRules) : r.kind = .numeric := by
  obtain rfl := List.mem_singleton.mp h
  rfl

/-- A rule for types with a kind of their own applies just when its kind is that of the first word,
so at most one of them applies. -/
theorem applies_iff_ownKind? (h : r ∈ specificRules) :
    r.applies q = true ↔ ownKind? q.base = some r.kind := by
  simp only [specificRules, List.mem_cons, List.not_mem_nil, or_false] at h
  rcases h with rfl | rfl | rfl | rfl | rfl | rfl <;>
    · simp only [baseRule, List.contains_iff_mem, List.mem_cons, List.not_mem_nil, or_false]
      unfold ownKind?
      split <;> simp_all

/-- Each kind that a first word may have of its own has its rule. -/
theorem exists_mem_specificRules (h : ownKind? q.base = some k) :
    ∃ r ∈ specificRules, r.kind = k := by
  unfold ownKind? at h
  split at h <;> simp_all [specificRules, baseRule]

theorem agree_overrideRules : Agree overrideRules := agree_of_kind fun _ => kind_of_mem_overrideRules

theorem agree_otherRules : Agree otherRules := agree_of_kind fun _ => kind_of_mem_otherRules

theorem agree_specificRules : Agree specificRules := by
  intro r hr r' hr' q happlies happlies'
  rw [applies_iff_ownKind? hr] at happlies
  rw [applies_iff_ownKind? hr'] at happlies'
  exact Option.some.inj (happlies.symm.trans happlies')

/-- A rule that overrides applies just when something overrides the type. -/
theorem exists_mem_overrideRules_iff :
    (∃ r ∈ overrideRules, r.applies q = true) ↔ q.IsOverridden := by
  rw [isOverridden_iff]
  simp only [overrideRules, List.exists_mem_cons_iff, List.not_mem_nil, false_and, exists_false,
    or_false]

theorem firstKind?_overrideRules :
    firstKind? overrideRules q = if q.IsOverridden then some .notRelevant else none := by
  ext k
  rw [agree_overrideRules.firstKind?_eq_some_iff]
  by_cases h : q.IsOverridden
  · rw [if_pos h]
    constructor
    · rintro ⟨r, hr, -, rfl⟩
      rw [kind_of_mem_overrideRules hr]
    · intro hk
      obtain ⟨r, hr, happlies⟩ := exists_mem_overrideRules_iff.mpr h
      exact ⟨r, hr, happlies, (kind_of_mem_overrideRules hr).trans (Option.some.inj hk)⟩
  · rw [if_neg h]
    constructor
    · rintro ⟨r, hr, happlies, -⟩
      exact absurd (exists_mem_overrideRules_iff.mp ⟨r, hr, happlies⟩) h
    · intro hk
      contradiction

theorem firstKind?_specificRules : firstKind? specificRules q = ownKind? q.base := by
  ext k
  rw [agree_specificRules.firstKind?_eq_some_iff]
  constructor
  · rintro ⟨r, hr, happlies, rfl⟩
    exact (applies_iff_ownKind? hr).mp happlies
  · intro hk
    obtain ⟨r, hr, rfl⟩ := exists_mem_specificRules hk
    exact ⟨r, hr, (applies_iff_ownKind? hr).mpr hk, rfl⟩

theorem firstKind?_otherRules :
    firstKind? otherRules q = if q.base = "" then none else some .numeric := by
  unfold firstKind? otherRules
  by_cases h : q.base = "" <;> simp [h]

/-! ## Other orders of the table -/

/-- A table has the same rules, perhaps in another order, in which the rules that override still
come before those for the types with a kind of their own, and these before the rule for the other
types. -/
structure Reorders (rules : List KindRule) : Prop where
  /-- The rules are the same. -/
  perm : rules.Perm kindRules
  /-- Before a rule that overrides there are only such rules. -/
  overrides_first : rules.Pairwise fun r r' => r' ∈ overrideRules → r ∈ overrideRules
  /-- Behind the rule for the other types there is none but such a rule. -/
  others_last : rules.Pairwise fun r r' => r ∈ otherRules → r' ∈ otherRules

/-- A list in which nothing without a property stands before something with it has those with it
first. -/
theorem eq_append_of_pairwise {α : Type} {p : α → Bool} {l : List α}
    (h : l.Pairwise fun a b => p b = true → p a = true) :
    l = l.filter p ++ l.filter (!p ·) := by
  induction l with
  | nil => rfl
  | cons a l ih =>
    obtain ⟨ha, hl⟩ := List.pairwise_cons.mp h
    by_cases hp : p a = true
    · simp only [List.filter_cons, hp, if_true, Bool.not_true, Bool.false_eq_true, if_false,
        List.cons_append]
      exact congrArg (a :: ·) (ih hl)
    · have hnone : l.filter p = [] := List.filter_eq_nil_iff.mpr fun b hb hpb => hp (ha b hb hpb)
      have hall : l.filter (!p ·) = l := by
        refine List.filter_eq_self.mpr fun b hb => ?_
        simpa using fun hpb => hp (ha b hb hpb)
      simp [hp, hnone, hall]

theorem not_mem_overrideRules (h : r ∈ specificRules ∨ r ∈ otherRules) : r ∉ overrideRules := by
  intro hin
  have hkind := kind_of_mem_overrideRules hin
  rcases h with h | h
  · exact (kind_of_mem_specificRules h).1 hkind
  · exact absurd ((kind_of_mem_otherRules h).symm.trans hkind) (by decide)

theorem not_mem_otherRules (h : r ∈ overrideRules ∨ r ∈ specificRules) : r ∉ otherRules := by
  intro hin
  have hkind := kind_of_mem_otherRules hin
  rcases h with h | h
  · exact absurd ((kind_of_mem_overrideRules h).symm.trans hkind) (by decide)
  · exact (kind_of_mem_specificRules h).2 hkind

/-- In the table, the rules that override are those that make a question irrelevant. -/
theorem mem_overrideRules_iff (h : r ∈ kindRules) : r ∈ overrideRules ↔ r.kind = .notRelevant := by
  refine ⟨kind_of_mem_overrideRules, fun hkind => ?_⟩
  rcases mem_kindRules.mp h with h | h | h
  · exact h
  · exact absurd hkind (kind_of_mem_specificRules h).1
  · exact absurd ((kind_of_mem_otherRules h).symm.trans hkind) (by decide)

theorem mem_otherRules_iff (h : r ∈ kindRules) : r ∈ otherRules ↔ r.kind = .numeric := by
  refine ⟨kind_of_mem_otherRules, fun hkind => ?_⟩
  rcases mem_kindRules.mp h with h | h | h
  · exact absurd ((kind_of_mem_overrideRules h).symm.trans hkind) (by decide)
  · exact absurd hkind (kind_of_mem_specificRules h).2
  · exact h

theorem pairwise_append_of_mem {α : Type} {p : α → Prop} {xs ys : List α} (hxs : ∀ a ∈ xs, p a)
    (hys : ∀ a ∈ ys, ¬ p a) : (xs ++ ys).Pairwise fun a b => p b → p a := by
  refine List.pairwise_append.mpr ⟨?_, ?_, fun a ha _ _ _ => hxs a ha⟩
  · exact List.pairwise_of_forall_mem_list fun a ha _ _ _ => hxs a ha
  · exact List.pairwise_of_forall_mem_list fun _ _ b hb hp => absurd hp (hys b hb)

/-- Such a table consists of the three parts, each in some order. -/
theorem reorders_iff :
    Reorders rules ↔ ∃ overrides specifics others, overrides.Perm overrideRules ∧
      specifics.Perm specificRules ∧ others.Perm otherRules ∧
      rules = overrides ++ specifics ++ others := by
  constructor
  · -- rules cannot be compared, so the parts are told apart by the kinds that their rules give
    intro h
    have hmem : ∀ r ∈ rules, r ∈ kindRules := fun r hr => h.perm.mem_iff.mp hr
    have hoverrides : rules.Pairwise fun r r' =>
        (r'.kind == .notRelevant) = true → (r.kind == .notRelevant) = true := by
      refine h.overrides_first.imp_of_mem fun hr hr' himp => ?_
      rwa [beq_iff_eq, beq_iff_eq, ← mem_overrideRules_iff (hmem _ hr),
        ← mem_overrideRules_iff (hmem _ hr')]
    have hothers : rules.Pairwise fun r r' =>
        (r'.kind != .numeric) = true → (r.kind != .numeric) = true := by
      refine h.others_last.imp_of_mem fun hr hr' himp => ?_
      rw [bne_iff_ne, bne_iff_ne, ne_eq, ne_eq, ← mem_otherRules_iff (hmem _ hr),
        ← mem_otherRules_iff (hmem _ hr')]
      exact mt himp
    refine ⟨rules.filter (·.kind == .notRelevant),
      (rules.filter (!·.kind == .notRelevant)).filter (·.kind != .numeric),
      (rules.filter (!·.kind == .notRelevant)).filter (!·.kind != .numeric),
      h.perm.filter _, (h.perm.filter _).filter _, (h.perm.filter _).filter _, ?_⟩
    rw [List.append_assoc, ← eq_append_of_pairwise (hothers.filter _),
      ← eq_append_of_pairwise hoverrides]
  · rintro ⟨overrides, specifics, others, hoverrides, hspecifics, hothers, rfl⟩
    have hfirst : ∀ r ∈ overrides, r ∈ overrideRules := fun r hr => hoverrides.mem_iff.mp hr
    have hlast : ∀ r ∈ others, ¬ r ∉ otherRules := fun r hr => not_not.mpr (hothers.mem_iff.mp hr)
    refine ⟨(hoverrides.append hspecifics).append hothers, ?_, ?_⟩
    · rw [List.append_assoc]
      refine pairwise_append_of_mem hfirst fun r hr => not_mem_overrideRules ?_
      rwa [List.mem_append, hspecifics.mem_iff, hothers.mem_iff] at hr
    · refine (pairwise_append_of_mem (fun r hr => not_mem_otherRules ?_) hlast).imp not_imp_not.mp
      rwa [List.mem_append, hoverrides.mem_iff, hspecifics.mem_iff] at hr

/-! ## The kind of a question -/

/-- Of a table in three parts the first part decides in which a rule applies. -/
theorem kindBy_append (overrides specifics others : List KindRule) :
    kindBy (overrides ++ specifics ++ others) q =
      (((firstKind? overrides q).or (firstKind? specifics q)).or (firstKind? others q)).getD
        .notRelevant := by
  rw [← firstKind?_append, ← firstKind?_append]
  rfl

/-- Each part of the table stands for one assignment, the first part for the last. -/
theorem classify_eq : q.classify = q.assigned := by
  rw [classify, kindRules, kindBy_append, firstKind?_overrideRules, firstKind?_specificRules,
    firstKind?_otherRules]
  unfold assigned
  by_cases hover : q.IsOverridden
  · simp [hover]
  · cases ownKind? q.base with
    | some k => simp [hover]
    | none => by_cases hbase : q.base = "" <;> simp [hover, hbase]

theorem Reorders.kindBy_eq (h : Reorders rules) : kindBy rules q = q.classify := by
  obtain ⟨overrides, specifics, others, hoverrides, hspecifics, hothers, rfl⟩ := reorders_iff.mp h
  rw [kindBy_append, agree_overrideRules.firstKind?_eq_of_perm hoverrides,
    agree_specificRules.firstKind?_eq_of_perm hspecifics,
    agree_otherRules.firstKind?_eq_of_perm hothers, ← kindBy_append, classify, kindRules]

/-- The first rule that applies gives a question the kind that is left of the assignments, and it
does so in every order of the table in which the rules that override come before those for the types
with a kind of their own, and these before the rule for the other types. -/
theorem classify_eq_assigned (q : Question) :
    q.classify = q.assigned ∧ ∀ rules, Reorders rules → kindBy rules q = q.classify :=
  ⟨classify_eq, fun _ h => h.kindBy_eq⟩

/-- The table with each of its parts turned round. -/
def turnedRules : List KindRule :=
  overrideRules.reverse ++ specificRules.reverse ++ otherRules.reverse

/-- An audit of texts, whose first word has a kind of its own. -/
def auditQuestion : Question := { name := "log", rawType := "text  audit", tokens := ["text", "audit"] }

theorem classify_eq_assigned_audit :
    Reorders turnedRules ∧ ownKind? auditQuestion.base = some .string ∧
      auditQuestion.assigned = .notRelevant ∧
      kindBy turnedRules auditQuestion = auditQuestion.assigned := by
  have hturned : Reorders turnedRules :=
    reorders_iff.mpr ⟨_, _, _, List.reverse_perm _, List.reverse_perm _, List.reverse_perm _, rfl⟩
  obtain ⟨hassigned, hrules⟩ := classify_eq_assigned auditQuestion
  exact ⟨hturned, rfl, by decide, (hrules _ hturned).trans hassigned⟩

/-- With the rule for the other types in front, a free text would be taken for a number. -/
example : kindBy (otherRules ++ overrideRules ++ specificRules)
    { name := "who", rawType := "text", tokens := ["text"] } = .numeric := by decide

end Question

end SurveyChecks
