import Mathlib.Data.List.Nodup
import SurveyChecks.Json.Writer

/-!
# Records as JSON

How lists of texts and records are written: a record with its fields in ascending order of their
names, whatever their order in the record.
-/

namespace SurveyChecks.Json

open SurveyChecks.Data (text texts record)

variable {knot : Knot → Except DataFault String}

/-! ## Texts -/

theorem writeBy_text (s : String) : writeBy knot (text s) = .ok (textLiteral s) := by
  rw [text, writeBy]
  rfl

theorem writeItemsBy_map_text (ss : List String) :
    writeItemsBy knot (ss.map text) = .ok (ss.map textLiteral) := by
  induction ss with
  | nil => rfl
  | cons s ss ih =>
    rw [List.map_cons, writeItemsBy, writeBy_text, ih]
    rfl

/-- A list of texts as JSON. -/
def textsText (ss : List String) : String :=
  "[" ++ ", ".intercalate (ss.map textLiteral) ++ "]"

theorem writeBy_texts (ss : List String) : writeBy knot (texts ss) = .ok (textsText ss) := by
  rw [texts, writeBy, writeItemsBy_map_text]
  rfl

/-! ## Records -/

theorem mapM_eq_ok_map {α β ε : Type} {f : α → Except ε β} {g : α → β} {xs : List α}
    (h : ∀ x ∈ xs, f x = .ok (g x)) : xs.mapM f = .ok (xs.map g) := by
  induction xs with
  | nil => rfl
  | cons x xs ih =>
    obtain ⟨hx, hxs⟩ := List.forall_mem_cons.mp h
    rw [List.mapM_cons, hx, ih hxs]
    rfl

/-- A field of a record as JSON. -/
def writeField (knot : Knot → Except DataFault String) (p : String × Data) :
    Except DataFault String := do
  let t ← writeBy knot p.2
  return textLiteral p.1 ++ ": " ++ t

/-- The fields of a record in ascending order of their names. -/
def inOrder (ps : List (String × Data)) : List (String × Data) :=
  ps.mergeSort fun p q => decide (p.1 ≤ q.1)

/-- The member that a field is written as. -/
def memberOf (knot : Knot → Except DataFault String) (p : String × Data) : Member :=
  ⟨text p.1, writeField knot p⟩

theorem writeMembersBy_fields (ps : List (String × Data)) :
    writeMembersBy knot (ps.map fun p => (text p.1, p.2)) = ps.map (memberOf knot) := by
  induction ps with
  | nil => rfl
  | cons p ps ih =>
    rw [List.map_cons, writeMembersBy, ih, List.map_cons]
    rfl

/-- Names of fields can always be put in order. -/
theorem keysOrdered_members (ps : List (String × Data)) :
    keysOrdered ((ps.map (memberOf knot)).map (·.key)) = true := by
  have htexts : ((ps.map (memberOf knot)).map (·.key)).all isText = true := by
    simp only [List.all_eq_true, List.mem_map]
    rintro k ⟨_, ⟨p, -, rfl⟩, rfl⟩
    rfl
  rw [keysOrdered, htexts, Bool.or_true, Bool.true_or]

theorem writeBy_record (ps : List (String × Data)) :
    writeBy knot (record ps) =
      ((inOrder ps).mapM (writeField knot)).map fun ts =>
        "\x7b" ++ ", ".intercalate ts ++ "\x7d" := by
  have hsort : (ps.map (memberOf knot)).mergeSort (fun a b => keyLe a.key b.key) =
      (inOrder ps).map (memberOf knot) :=
    (List.map_mergeSort (f := memberOf knot) fun _ _ _ _ => rfl).symm
  rw [record, writeBy]
  show object (writeMembersBy knot (ps.map fun p => (text p.1, p.2))) = _
  rw [writeMembersBy_fields, object, if_pos (keysOrdered_members ps)]
  simp only [hsort, List.mapM_map]
  rfl

theorem inOrder_perm (ps : List (String × Data)) : (inOrder ps).Perm ps := List.mergeSort_perm ..

/-- A record as JSON whose fields, in this order, have these texts. -/
def recordText (fields : List (String × String)) : String :=
  "\x7b" ++ ", ".intercalate (fields.map fun p => textLiteral p.1 ++ ": " ++ p.2) ++ "\x7d"

/-- A record is written with its fields in order when their values can be written. -/
theorem writeBy_record_eq_ok {α : Type} {ps : List (String × Data)} {xs : List α}
    {name : α → String} {value : α → Data} {written : α → String}
    (hps : inOrder ps = xs.map fun x => (name x, value x))
    (h : ∀ x ∈ xs, writeBy knot (value x) = .ok (written x)) :
    writeBy knot (record ps) = .ok (recordText (xs.map fun x => (name x, written x))) := by
  have hfields : ∀ x ∈ xs, (writeField knot ∘ fun x => (name x, value x)) x =
      .ok (textLiteral (name x) ++ ": " ++ written x) := by
    intro x hx
    show writeField knot (name x, value x) = _
    rw [writeField, h x hx]
    rfl
  rw [writeBy_record, hps, List.mapM_map, mapM_eq_ok_map hfields, recordText, List.map_map]
  rfl

/-- The fields in order are the only arrangement of the fields in which the names ascend. -/
theorem inOrder_eq {ps ps' : List (String × Data)} (hperm : ps.Perm ps')
    (hascending : ps'.Pairwise fun p q => p.1 < q.1) : inOrder ps = ps' := by
  have htrans : ∀ p q r : String × Data, decide (p.1 ≤ q.1) → decide (q.1 ≤ r.1) →
      decide (p.1 ≤ r.1) := by
    intro p q r hpq hqr
    simp only [decide_eq_true_eq] at hpq hqr ⊢
    exact String.le_trans hpq hqr
  have htotal : ∀ p q : String × Data, decide (p.1 ≤ q.1) || decide (q.1 ≤ p.1) := by
    intro p q
    simp only [Bool.or_eq_true, decide_eq_true_eq]
    exact String.le_total p.1 q.1
  have hsorted : (inOrder ps).Pairwise fun p q => p.1 ≤ q.1 :=
    (List.pairwise_mergeSort htrans htotal ps).imp fun h => by simpa using h
  have hperm' : (inOrder ps).Perm ps' := (inOrder_perm ps).trans hperm
  have hnodup : (ps'.map (·.1)).Nodup :=
    List.pairwise_map.mpr (hascending.imp fun h => String.ne_of_lt h)
  refine hperm'.eq_of_pairwise (fun p q hp hq hpq hqp => ?_) hsorted
    (hascending.imp fun h => String.not_lt.mp (String.lt_asymm h))
  exact List.inj_on_of_nodup_map hnodup (hperm'.mem_iff.mp hp) hq (String.le_antisymm hpq hqp)

end SurveyChecks.Json
