import SurveyChecks.Yaml.Writer

/-!
# Outlines of records

Texts, lists of texts and records of them have an outline, so they can be written as YAML, as long
as they are not nested too deep.
-/

namespace SurveyChecks.Yaml

namespace Outline

open SurveyChecks.Data (text texts record)

variable {α β : Type}

/-! ## Steps that succeed -/

/-- Whether a step of outlining gives a result, whatever names were met. -/
def Succeeds (o : Outlining α) : Prop := ∀ s, ∃ r, o.run s = .ok r

theorem succeeds_pure (a : α) : Succeeds (pure a : Outlining α) := fun s => ⟨(a, s), rfl⟩

theorem Succeeds.bind {o : Outlining α} {f : α → Outlining β} (ho : Succeeds o)
    (hf : ∀ a, Succeeds (f a)) : Succeeds (o >>= f) := by
  intro s
  obtain ⟨⟨a, s'⟩, hr⟩ := ho s
  obtain ⟨r, hr'⟩ := hf a s'
  refine ⟨r, ?_⟩
  rw [StateT.run_bind, hr]
  exact hr'

/-! ## Values that have an outline -/

variable {knot : Nat → Knot → Outlining Outline} {name : Option Nat} {depth : Nat}

theorem succeeds_text (s : String) (h : depth < maxDepth) :
    Succeeds (ofDataBy knot name depth (text s)) := by
  rw [text, ofDataBy, if_neg (by omega)]
  exact succeeds_pure _

theorem succeeds_ofItemsBy {xs : List Data}
    (h : ∀ x ∈ xs, Succeeds (ofDataBy knot none depth x)) : Succeeds (ofItemsBy knot depth xs) := by
  induction xs with
  | nil => exact succeeds_pure _
  | cons x xs ih =>
    obtain ⟨hx, hxs⟩ := List.forall_mem_cons.mp h
    rw [ofItemsBy]
    exact hx.bind fun _ => (ih hxs).bind fun _ => succeeds_pure _

theorem succeeds_texts (ss : List String) (h : depth + 1 < maxDepth) :
    Succeeds (ofDataBy knot name depth (texts ss)) := by
  have hitems : Succeeds (ofItemsBy knot (depth + 1) (ss.map text)) := by
    refine succeeds_ofItemsBy fun x hx => ?_
    obtain ⟨s, -, rfl⟩ := List.mem_map.mp hx
    exact succeeds_text s h
  rw [texts, ofDataBy, if_neg (by omega)]
  exact (succeeds_pure _).bind fun _ => hitems.bind fun _ => succeeds_pure _

theorem succeeds_fields {ps : List (String × Data)} (hdepth : depth < maxDepth)
    (h : ∀ p ∈ ps, Succeeds (ofDataBy knot none depth p.2)) :
    Succeeds (ofEntriesBy knot depth (ps.map fun p => (text p.1, p.2))) := by
  induction ps with
  | nil => exact succeeds_pure _
  | cons p ps ih =>
    obtain ⟨hp, hps⟩ := List.forall_mem_cons.mp h
    rw [List.map_cons, ofEntriesBy]
    exact (succeeds_text p.1 hdepth).bind fun _ => hp.bind fun _ => (ih hps).bind fun _ =>
      succeeds_pure _

/-- A record has an outline when the values of its fields have. -/
theorem succeeds_record {ps : List (String × Data)} (hdepth : depth + 1 < maxDepth)
    (h : ∀ p ∈ ps, Succeeds (ofDataBy knot none (depth + 1) p.2)) :
    Succeeds (ofDataBy knot name depth (record ps)) := by
  rw [record, ofDataBy, if_neg (by omega)]
  exact (succeeds_pure _).bind fun _ => (succeeds_fields hdepth h).bind fun _ => succeeds_pure _

end Outline

/-- What has an outline can be written. -/
theorem exists_write {d : Data}
    (h : ∀ knot, Outline.Succeeds (Outline.ofDataBy knot none 0 d)) : ∃ t, write d = .ok t := by
  obtain ⟨⟨o, names⟩, hr⟩ := h (fun depth k =>
    Outline.ofDataBy (fun _ k => Outline.repetition k.name) none depth (Data.unrolled k)) {}
  have houtline : Outline.ofData d = .ok (o, names.repeated) := by
    unfold Outline.ofData
    dsimp only
    rw [hr]
    rfl
  refine ⟨String.ofList (node names.repeated .top 0 0 o ++ ['\n']), ?_⟩
  rw [write, houtline]
  rfl

end SurveyChecks.Yaml
