import SurveyChecks.Checks.Parameters
import SurveyChecks.Proofs.Data

/-!
# Parameters of valid settings

Settings are valid when each value is of the kind that its parameter is meant to have and the
required ones are given. Valid settings always have parameters, and these are the texts given.
-/

namespace SurveyChecks

namespace Settings

/-! ## The texts of settings -/

/-- The text of a value, empty when the value is no text. -/
def textOf : Data → String
  | .scalar (.text t) => t
  | _ => ""

/-- The text of a parameter. -/
def text (s : Settings) (p : Parameter) : String := textOf (s.value p)

/-- The text of a parameter that counts as not given when it is empty. -/
def given? (s : Settings) (p : Parameter) : Option String :=
  if s.text p = "" then none else some (s.text p)

/-- The variables that together identify a submission. -/
def ids (s : Settings) : List String :=
  match (s.value .uniqueIds).unnamed with
  | .list xs => xs.map textOf
  | _ => []

/-- The parameters that may be null. -/
def nullable : List Parameter := [.correctionsFile, .graphicsDir]

/-- Every value is of the kind that its parameter is meant to have: a list of texts for the
identifying variables, a text for the others, or null where that is allowed. The required ones are
given. -/
structure IsValid (s : Settings) : Prop where
  /-- The identifying variables are a list of texts. -/
  listed : (s.value .uniqueIds).unnamed = .texts s.ids
  /-- The other parameters are texts, or null where that is allowed. -/
  textual : ∀ p ≠ .uniqueIds, s.value p = .text (s.text p) ∨ (p ∈ nullable ∧ s.value p = .null)
  /-- The required parameters are given. -/
  complete : s.missing = []

/-- The texts of all parameters. -/
def texts (s : Settings) : List String :=
  s.ids ++ (Parameter.all.filter (· != .uniqueIds)).map s.text

/-- The parameters of a script with the texts of settings. -/
def asParameters (s : Settings) : Parameters where
  instrument := s.text .instrument
  output := s.text .output
  workingDir := s.text .workingDir
  graphicsDir := s.given? .graphicsDir
  enumeratorId := s.text .enumeratorId
  uniqueIds := s.ids
  respondentName := s.given? .respondentName
  successCondition := s.given? .successCondition
  correctionsFile := s.given? .correctionsFile
  enumeratorComments := s.given? .enumeratorComments

/-! ## Reading valid settings -/

section Read

variable {s : Settings} {p : Parameter}

theorem given?_mem_texts {t : String} (hp : p ≠ .uniqueIds) (h : s.given? p = some t) :
    t ∈ s.texts := by
  unfold given? at h
  split at h
  · simp at h
  · obtain rfl := Option.some.inj h
    exact List.mem_append_right _
      (List.mem_map_of_mem (List.mem_filter.mpr ⟨p.mem_all, by simpa using hp⟩))

theorem text_mem_texts (hp : p ≠ .uniqueIds) : s.text p ∈ s.texts :=
  List.mem_append_right _
    (List.mem_map_of_mem (List.mem_filter.mpr ⟨p.mem_all, by simpa using hp⟩))

theorem IsValid.value_eq (h : s.IsValid) (hp : p ≠ .uniqueIds) (hn : p ∉ nullable) :
    s.value p = .text (s.text p) :=
  (h.textual p hp).resolve_right fun hnull => hn hnull.1

/-- A value that may be left out is read as the text given, by a reader that takes texts as they
are. -/
theorem IsValid.optional_eq (h : s.IsValid) (hp : p ≠ .uniqueIds)
    {read : Data → Except DataFault String} (hread : ∀ t, read (.text t) = .ok t) :
    optional read (s.value p) = .ok (s.given? p) := by
  rcases h.textual p hp with htext | ⟨-, hnull⟩
  · rw [htext, optional, hread, given?]
    by_cases he : s.text p = ""
    · simp [he, Data.isTruthy, Scalar.isTruthy]
    · simp [he, Data.isTruthy, Scalar.isTruthy, Except.map]
  · have he : s.text p = "" := by rw [text, hnull]; rfl
    rw [hnull, optional, given?, if_pos he]
    rfl

theorem mapM_joinableText (ts : List String) :
    (ts.map Data.text).mapM joinableText = .ok ts := by
  induction ts with
  | nil => rfl
  | cons t ts ih =>
    rw [List.map_cons, List.mapM_cons, ih]
    rfl

theorem IsValid.identifiers_eq (h : s.IsValid) :
    s.identifiers = .ok (s.text .enumeratorId, s.ids, s.given? .respondentName) := by
  have hids := Data.elements_of_unnamed h.listed
  have henumerator := h.value_eq (p := .enumeratorId) (by decide) (by decide)
  have hrespondent : optional joinableText (s.value .respondentName) = _ :=
    h.optional_eq (by decide) fun _ => rfl
  unfold identifiers
  rw [hids, henumerator, hrespondent]
  simp only [bind, Except.bind, joinableText, mapM_joinableText]
  rfl

theorem IsValid.corrections_eq (h : s.IsValid) :
    s.corrections = .ok (s.given? .correctionsFile) := by
  have hfault : firstIdFault? (s.value .uniqueIds) = none := by
    rw [firstIdFault?, Data.opened_of_unnamed h.listed]
  have hfile : optional changeableText (s.value .correctionsFile) = _ :=
    h.optional_eq (by decide) fun _ => rfl
  rw [← hfile, corrections, optional, hfault]

/-- Valid settings have parameters: the texts given. -/
theorem IsValid.parameters_eq (h : s.IsValid) : s.parameters true = .ok s.asParameters := by
  have houtput := h.value_eq (p := .output) (by decide) (by decide)
  have hinstrument := h.value_eq (p := .instrument) (by decide) (by decide)
  have hdir := h.value_eq (p := .workingDir) (by decide) (by decide)
  have hgraphics : optional changeableText (s.value .graphicsDir) = _ :=
    h.optional_eq (by decide) fun _ => rfl
  have hsuccess : optional interpolatedText (s.value .successCondition) = _ :=
    h.optional_eq (by decide) fun _ => rfl
  have hcomments : optional interpolatedText (s.value .enumeratorComments) = _ :=
    h.optional_eq (by decide) fun _ => rfl
  unfold parameters withSurvey
  rw [houtput, hinstrument, hdir, hgraphics, hsuccess, hcomments, h.corrections_eq,
    h.identifiers_eq]
  rfl

end Read

/-! ## Settings of household visits -/

/-- Settings with two identifying variables, a condition and a table of corrections. -/
def visits : Settings :=
  ofAssignments [(.instrument, .text "visits.xlsx"), (.output, .text "out/visits.do"),
    (.enumeratorId, .text "enum"), (.uniqueIds, .text "hh visit"),
    (.successCondition, .text "done == 1"), (.correctionsFile, .text "fixes.csv")]

theorem isValid_visits : visits.IsValid where
  listed := rfl
  textual p hp := by
    cases p with
    | uniqueIds => exact absurd rfl hp
    | graphicsDir => exact Or.inr ⟨by decide, rfl⟩
    | _ => exact Or.inl rfl
  complete := by decide

end Settings

end SurveyChecks
